/-!
# Markers of an overlay

Two snapshots of one project are laid over each other entity by entity: types by qualified
name, methods by owner and signature, fields by owner and name. Every entity of either side
gets one marker saying whether it is unchanged, changed, added or removed, with the files it
lives in on each side, the lines of a method when both sides know them, and for a changed one
the patch between its two versions.
-/

namespace CodeGraph

inductive EntityKind where
  | type
  | method
  | field
  deriving DecidableEq, Inhabited, Repr

namespace EntityKind

def all : List EntityKind := [.type, .method, .field]

def name : EntityKind → String
  | .type => "Type"
  | .method => "Method"
  | .field => "Field"

def plural : EntityKind → String
  | .type => "types"
  | .method => "methods"
  | .field => "fields"

def relation : EntityKind → String
  | .type => "SAME_FQN"
  | .method => "SAME_SIGNATURE"
  | .field => "SAME_FIELD"

def rank : EntityKind → Nat
  | .type => 0
  | .method => 1
  | .field => 2

end EntityKind

inductive Status where
  | unchanged
  | changed
  | added
  | removed
  deriving DecidableEq, Inhabited, Repr

namespace Status

def all : List Status := [.unchanged, .changed, .added, .removed]

def name : Status → String
  | .unchanged => "UNCHANGED"
  | .changed => "CHANGED"
  | .added => "ADDED"
  | .removed => "REMOVED"

end Status

structure LineRange where
  first : Nat
  last : Nat
  deriving DecidableEq, Inhabited, Repr

/-- The marker of one entity of an overlay. -/
structure Marker where
  overlay : String
  kind : EntityKind
  key : String
  status : Status
  leftFile : Option String := none
  rightFile : Option String := none
  leftRange : Option LineRange := none
  rightRange : Option LineRange := none
  diff : Option String := none
  truncated : Bool := false
  deriving DecidableEq, Inhabited, Repr

structure Alignment where
  kind : EntityKind
  key : String
  deriving DecidableEq, Inhabited, Repr

end CodeGraph
