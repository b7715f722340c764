import FlowGraph.Error
import FlowGraph.Json.Reader
import FlowGraph.Timestamp

/-! # Credentials

A bundle holds the tokens of one user for one service. `Credentials.get` finds the bundle of a user
and a service and refuses one that has expired; a bundle expires at its time, not after it. The
tokens never show in a description of a bundle (`CredentialBundle.description`). -/

namespace FlowGraph

/-- The tokens of one user for one service. -/
structure CredentialBundle where
  accessToken : String
  refreshToken : Option String := none
  expiresAt : Option Timestamp := none
  /-- Further facts about the service. -/
  extra : Fields String := []

namespace Tree

/-- A timestamp. -/
def timestamp (t : Tree) : Decoded Timestamp :=
  match t with
  | .scalar { text := some s, .. } =>
    match Timestamp.parse s with
    | .ok time => .ok time
    | .error e => .error (.invalid e.message)
  | t => .error (t.mismatch "an RFC 3339 formatted date and time string")

end Tree

namespace CredentialBundle

/-- Whether the bundle is no longer good at a time. -/
def isExpired (b : CredentialBundle) (now : Timestamp) : Bool := b.expiresAt.any fun at' => at'.le now

/-- What is known of a bundle while its entries are read. -/
structure Draft where
  accessToken : Option String := none
  refreshToken : Option (Option String) := none
  expiresAt : Option (Option Timestamp) := none
  extra : Option (Fields String) := none

/-- One entry. -/
def Draft.step (d : Draft) (name : String) (t : Tree) : Decoded Draft :=
  match name with
  | "access_token" => do
    let v ← Record.once name d.accessToken Tree.text t
    .ok { d with accessToken := v }
  | "refresh_token" => do
    let v ← Record.once name d.refreshToken (Tree.optional Tree.text) t
    .ok { d with refreshToken := v }
  | "expires_at" => do
    let v ← Record.once name d.expiresAt (Tree.optional Tree.timestamp) t
    .ok { d with expiresAt := v }
  | "extra" => do
    let v ← Record.once name d.extra (Tree.entriesOf Tree.text) t
    .ok { d with extra := v }
  | _ => Record.skip d t

def decode (t : Tree) : Decoded CredentialBundle := do
  let r ← t.record "CredentialBundle" ["access_token", "refresh_token", "expires_at", "extra"]
  let d ← r.scan Draft.step {}
  let accessToken ← r.require "access_token" d.accessToken
  r.close {
    accessToken
    refreshToken := d.refreshToken.getD none
    expiresAt := d.expiresAt.getD none
    extra := d.extra.getD [] }

def toJson (b : CredentialBundle) : Json := .ofFields [
  ("access_token", .str b.accessToken), ("refresh_token", .ofText? b.refreshToken),
  ("expires_at", .ofText? (b.expiresAt.map Timestamp.text)),
  ("extra", .obj (Fields.mapValues Json.str b.extra))]

/-- What stands for a token in a description. -/
def redacted : String := Text.quoted "[REDACTED]"

/-- A value that may not be there, in a description. -/
def optionText : Option String → String
  | none => "None"
  | some s => "Some(" ++ s ++ ")"

/-- A list of parts between braces. -/
def braced (parts : List String) : String :=
  String.singleton '{' ++ ", ".intercalate parts ++ String.singleton '}'

/-- A bundle without its tokens. -/
def description (b : CredentialBundle) : String :=
  String.ofList ("CredentialBundle ".toList ++ ['{', ' ']) ++
    "access_token: " ++ redacted ++
    ", refresh_token: " ++ optionText (b.refreshToken.map fun _ => redacted) ++
    ", expires_at: " ++ optionText (b.expiresAt.map Timestamp.text) ++
    ", extra: " ++ braced (b.extra.map fun p => Text.quoted p.1 ++ ": " ++ Text.quoted p.2) ++
    String.ofList [' ', '}']

end CredentialBundle

/-- The bundles by user and service. -/
structure Credentials where
  users : Fields (Fields CredentialBundle) := []

namespace Credentials

/-- The bundle of a user and a service. -/
def find? (c : Credentials) (user service : String) : Option CredentialBundle :=
  (Fields.get? c.users user).bind fun services => Fields.get? services service

/-- The bundle of a user and a service, unless it has expired. -/
def get (c : Credentials) (user service : String) (now : Timestamp) :
    Except CredentialFault CredentialBundle :=
  match c.find? user service with
  | none => .error (.unknown service user)
  | some b => if b.isExpired now then .error (.expired service) else .ok b

/-- The services of a user. -/
def services (c : Credentials) (user : String) : Fields CredentialBundle :=
  (Fields.get? c.users user).getD []

/-- Puts a bundle in place of any before it. -/
def insert (c : Credentials) (user service : String) (b : CredentialBundle) : Credentials :=
  ⟨Fields.insert user (Fields.insert service b (c.services user)) c.users⟩

/-- Takes a bundle out. -/
def remove (c : Credentials) (user service : String) : Credentials :=
  ⟨Fields.insert user (Fields.erase (c.services user) service) c.users⟩

def decode (t : Tree) : Decoded Credentials :=
  (t.entriesOf (Tree.entriesOf CredentialBundle.decode)).map Credentials.mk

/-- The bundles in the text of a file. -/
def parse (path text : String) : Except Error Credentials :=
  match Json.decodeText decode text with
  | .error e => .error (.credential (.invalidFile path e))
  | .ok c => .ok c

/-- The error of a file that cannot be read. -/
def unreadable (path reason : String) : Error := .credential (.unreadableFile path reason)

end Credentials

end FlowGraph
