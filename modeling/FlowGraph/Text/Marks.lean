import FlowGraph.Text.CodeSet

/-! # Combining marks

Marks attach to the character before them. Each has a combining class, which says where it stands:
marks of different classes do not touch, so their order says nothing, and they are written in the
order of their classes. All other characters have class 0. -/

namespace FlowGraph

namespace Text

/-- The marks. -/
def marks : CodeSet := .ofGaps
  ["300 70 113 7 107 2d 1 1 1 2 1 2 1 1 48 b 30 15 10 1 65 7 2 6 2 2 1 4 23 1 1e 1b 5b b 3a 9 9",
    "1 18 4 1 9 1 3 1 5 2b 3 3b 9 2a 18 1 21 36 3 1 12 1 7 a 2 1d 3 38 1 1 7 2 2 2 3 9 1 a 2 1a",
    "1 2 3 38 1 1 5 4 2 2 3 3 1 1e 2 3 1 b 3 38 1 1 8 1 3 1 3 14 2 16 6 1 3 38 1 1 7 2 2 2 3 7 3",
    "a 2 1e 1 3b 5 3 3 1 4 9 1 28 5 37 1 1 7 1 3 1 4 7 2 b 2 1d 3 38 1 1 7 1 3 1 4 7 2 b 2 f 1 c",
    "4 37 2 1 7 1 3 1 4 9 1 a 2 1d 3 46 1 4 6 1 1 1 8 12 2 3d 1 2 7 c 8 62 1 2 9 b 7 49 2 1b 1 1",
    "1 1 1 4 2 31 14 1 2 5 b 1 24 9 1 64 14 17 4 4 3 1 3 2 7 3 4 d c 1 1 a 4 2bf 3 3b2 4 1c 3 1d",
    "2 1e 2 40 20 9 1 2d 3 1 1 75 2 22 1 76 c 4 c db 5 39 a 1 1d 2 1 30 2e 2 c 14 5 2f 11 26 9 c",
    "3 1e d 38 e 30 14 98 3 1 15 4 1 6 1 2 3 c6 40 2d0 21 bfe 3 8d 1 60 20 22a 6 69 2 75d4 4 1 a",
    "20 2 50 2 110 1 3 1 4 1 17 5 4 1 53 2 32 12 1a 12 d 1 26 8 19 d 2c 4 2f e 24 1 43 e c 1 8 2",
    "2d 3 32 1 1 3 2 2 5 2 1 1 29 5 5 2 ec 8 1 2 4f30 1 2e1 10 10 10 3cd 1 e2 1 95 5 686 3 1 2 5",
    "4 28 3 4 1 a5 2 23d 4 41 5 13d 2 4d 6 46 b 31 4 7a 3 35 f 29 1 2 2 a 4 2d b 7 1 3d 3 24 e",
    "10 2 2c 1 c 3 30 e 8 4 1 2 5c c 6 1 2 1 9d c 15 4 37 2 1 7 2 2 2 3 9 1 a 2 2 7 3 5 43 9 1 1",
    "2 1 1 4 1 5 1 1 e 2 52 12 17 1 51 14 eb 7 2 9 1b 2 52 11 6a d 65 f 100 f f5 6 1 2 2 4 1 1 1",
    "2 8d 7 2 7 3 1 1c a 28 7 1 4 8 1 9 b 2e 10 c6 8 c7 8 1 8 52 16 1 e 7a 6 3 1 1 2 1 7 1 1 42",
    "5 1 2 1 5 15b 4 9 2 1 1 30 7 3 5 17 1 14e5 1 6 f 2cc8 12 9c0 5 3b 7 418 1 1 37 7 4 51 1 b 2",
    "4cab 2 1261 2e 2 17 21e 5 3 6 8 8 2 7 1e 4 94 3 7bb 37 4 32 8 1 e 1 16 5 1 f 550 7 1 11 2 7",
    "1 2 1 5 64 1 a0 7 177 1 3d 4 1fc 4 fe 2 f3 1 2 1 7 2 5 1 1da 7 6d 7 c17b5 f0"]

/-- Whether a character is a mark. -/
def isMark (c : Char) : Bool := marks.has c

/-- The combining classes. -/
def combiningClasses : CodeTable Nat := .ofGaps hexNumber
  ["0 0 300 e6 15 e8 1 dc 4 e8 1 d8 1 dc 5 ca 2 dc 4 ca 2 dc b 1 5 dc 4 e6 8 f0 1 e6 1 dc 3 e6",
    "3 dc 2 0 1 e6 3 dc 4 e6 1 e8 1 dc 2 e6 1 e9 1 ea 2 e9 1 ea 2 e9 1 e6 d 0 113 e6 5 0 109 dc",
    "1 e6 4 dc 1 e6 3 de 1 dc 1 e6 6 dc 6 e6 2 dc 1 e6 2 de 1 e4 1 e6 1 a 1 b 1 c 1 d 1 e 1 f 1",
    "10 1 11 1 12 1 13 2 14 1 15 1 16 1 0 1 17 1 0 1 18 1 19 1 0 1 e6 1 dc 1 0 1 12 1 0 48 e6 8",
    "1e 1 1f 1 20 1 0 30 1b 1 1c 1 1d 1 1e 1 1f 1 20 1 21 1 22 1 e6 2 dc 2 e6 5 dc 1 e6 2 dc 1 0",
    "10 23 1 0 65 e6 7 0 2 e6 4 dc 1 e6 1 0 2 e6 2 0 1 dc 1 e6 2 dc 1 0 23 24 1 0 1e e6 1 dc 1",
    "e6 2 dc 1 e6 2 dc 3 e6 1 dc 2 e6 1 dc 1 e6 3 dc 1 e6 1 dc 1 e6 1 dc 1 e6 1 dc 1 e6 2 0 a0",
    "e6 7 dc 1 e6 1 0 9 dc 1 0 18 e6 4 0 1 e6 9 0 1 e6 3 0 1 e6 5 0 2b dc 3 0 3b e6 2 dc 3 e6 4",
    "0 2a e6 5 dc 5 e6 e 0 1 dc 1 e6 2 dc 1 e6 2 dc 1 e6 3 dc 3 1b 1 1c 1 1d 1 e6 3 dc 1 e6 2 dc",
    "2 e6 5 0 3c 7 1 0 10 9 1 0 3 e6 1 dc 1 e6 2 0 67 7 1 0 10 9 1 0 30 e6 1 0 3d 7 1 0 10 9 1 0",
    "6e 7 1 0 10 9 1 0 6e 7 1 0 10 9 1 0 7f 9 1 0 6e 7 1 0 10 9 1 0 7 54 1 5b 1 0 65 7 1 0 10 9",
    "1 0 6d 9 2 0 10 9 1 0 7c 9 1 0 6d 67 2 9 1 0 d 6b 4 0 6c 76 2 9 1 0 d 7a 4 0 4c dc 2 0 1b",
    "dc 1 0 1 dc 1 0 1 d8 1 0 37 81 1 82 1 0 1 84 1 0 5 82 4 0 2 82 1 0 1 e6 2 9 1 0 1 e6 2 0 3e",
    "dc 1 0 70 7 1 0 1 9 2 0 52 dc 1 0 2cf e6 3 0 3b4 9 2 0 1e 9 1 0 9d 9 1 0 a e6 1 0 cb e4 1 0",
    "8f de 1 e6 1 dc 1 0 db e6 1 dc 1 0 47 9 1 0 14 e6 8 0 2 dc 1 0 30 e6 5 dc 6 e6 2 dc 1 0 1",
    "dc 2 e6 2 dc 2 e6 5 dc 1 e6 12 dc 1 0 2 e6 6 dc 1 e6 4 ea 1 0 48 7 1 0 f 9 1 0 26 e6 1 dc 1",
    "e6 7 0 36 9 2 0 3a 7 1 0 b 9 2 0 43 7 1 0 98 e6 3 0 1 1 1 dc 5 e6 2 dc 4 e6 1 0 1 1 7 0 4",
    "dc 1 0 6 e6 1 0 3 e6 2 0 c6 e6 2 dc 1 e6 7 dc 1 e6 2 ea 1 d6 1 dc 1 ca 1 e6 25 e8 1 e4 2 dc",
    "1 da 1 e6 1 e9 1 dc 1 e6 1 dc 1 0 2d0 e6 2 1 2 e6 4 1 3 e6 2 0 4 e6 1 0 3 1 2 e6 1 dc 1 e6",
    "1 1 2 dc 4 e6 1 0 bfe e6 3 0 8d 9 1 0 60 e6 20 0 22a da 1 e4 1 e8 1 de 1 e0 2 0 69 8 2 0",
    "75d4 e6 1 0 4 e6 a 0 20 e6 2 0 50 e6 2 0 114 9 1 0 25 9 1 0 97 9 1 0 1b e6 12 0 39 dc 3 0",
    "25 9 1 0 5f 7 1 0 c 9 1 0 ef e6 1 0 1 e6 2 dc 1 0 2 e6 2 0 5 e6 2 0 1 e6 1 0 34 9 1 0 f6 9",
    "1 0 4f30 1a 1 0 301 e6 7 dc 7 e6 2 0 3cd dc 1 0 e2 dc 1 0 95 e6 5 0 692 dc 1 0 1 e6 1 0 28",
    "e6 1 1 1 dc 1 0 4 9 1 0 a5 e6 1 dc 1 0 23d e6 4 0 41 e6 5 0 13d e6 2 0 4d dc 2 0 1 dc 3 0",
    "46 dc 2 e6 3 dc 1 e6 1 dc 4 0 31 e6 1 dc 1 e6 1 dc 1 0 c0 9 1 0 29 9 1 0 e 9 1 0 39 9 1 7 1",
    "0 45 e6 3 0 30 9 2 0 3e 7 1 0 4c 9 1 0 9 7 1 0 6a 9 1 7 1 0 b2 7 1 9 1 0 50 7 2 0 10 9 1 0",
    "18 e6 7 0 3 e6 5 0 59 9 3 0 71 9 1 0 3 7 1 0 17 e6 1 0 63 9 1 7 1 0 fb 9 1 7 1 0 7e 9 1 0",
    "76 9 1 7 1 0 73 9 1 0 10d 9 1 7 1 0 102 9 2 0 4 7 1 0 9c 9 1 0 53 9 1 0 12 9 1 0 51 9 1 0",
    "1a5 9 1 0 102 7 1 0 1 9 2 0 51 9 1 0 1a9 9 2 0 41ec 9 1 0 9c0 1 5 0 3b e6 7 0 4b9 6 2 0",
    "4cac 1 1 0 14c6 d8 2 1 3 0 3 e2 1 d8 5 0 8 dc 8 0 2 e6 5 dc 2 0 1e e6 4 0 94 e6 3 0 dbb e6",
    "7 0 1 e6 11 0 2 e6 7 0 1 e6 2 0 1 e6 5 0 64 e6 1 0 a0 e6 7 0 177 e6 1 0 3d e6 4 0 1fc e8 2",
    "dc 1 e6 1 0 fe e6 1 dc 1 0 f3 e6 1 0 2 e6 1 0 7 e6 2 0 5 e6 1 0 1da dc 7 0 6d e6 6 7 1 0"]

/-- The combining class of a character. -/
def combiningClass (c : Char) : Nat := (combiningClasses.value? c.toNat).getD 0

/-- The class of the marks that leave a consonant without its vowel. -/
def viramaClass : Nat := 9

end Text

end FlowGraph
