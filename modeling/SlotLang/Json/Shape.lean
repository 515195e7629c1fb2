/-!
# The shapes of program texts

Which JSON values stand for terms. A term is a choice between tags, each with content of its own,
or a record of named fields. One reader that follows these tables reads every kind of term; the
names in the tables are those that a text is written with and that a refusal mentions.
-/

namespace SlotLang.Json

/-- The kinds of term. -/
inductive Kind where
  | expr
  | member
  | stmt
  | routine
  deriving DecidableEq

/-- What a place of a text must hold. -/
inductive Shape where
  /-- A string. -/
  | text
  /-- A 64-bit integer. -/
  | integer
  /-- A list of values of one shape. -/
  | list (item : Shape)
  /-- A term. -/
  | term (kind : Kind)
  deriving DecidableEq

/-- A field of a record. -/
structure Field where
  /-- Its key. -/
  name : String
  /-- What it holds. -/
  shape : Shape
  deriving DecidableEq

/-- What goes with a tag. -/
inductive Content where
  /-- Nothing: the tag stands alone. -/
  | unit
  /-- One value. -/
  | single (shape : Shape)
  /-- A list of fixed length. -/
  | row (shapes : List Shape)
  /-- A record. -/
  | record (fields : List Field)
  deriving DecidableEq

/-- What a kind of content is called. -/
def Content.describe : Content → String
  | unit => "unit"
  | single _ => "newtype"
  | row _ => "tuple"
  | record _ => "struct"

/-- A tag and its content. -/
structure Variant where
  tag : String
  content : Content
  deriving DecidableEq

/-- How the terms of one kind are written. -/
inductive Layout where
  /-- One of several tags. -/
  | choice (name : String) (variants : List Variant)
  /-- A record without a tag. -/
  | record (name : String) (fields : List Field)
  deriving DecidableEq

/-- How expressions are written. -/
def exprVariants : List Variant :=
  let expr := Shape.term .expr
  let stmt := Shape.term .stmt
  [⟨"Int", .single .integer⟩,
   ⟨"Null", .unit⟩,
   ⟨"Printf", .record [⟨"format", .text⟩, ⟨"args", .list expr⟩]⟩,
   ⟨"Array", .record [⟨"length", expr⟩, ⟨"init", expr⟩]⟩,
   ⟨"Object", .record [⟨"parent", expr⟩, ⟨"slots", .list (.term .member)⟩]⟩,
   ⟨"Slot", .record [⟨"receiver", expr⟩, ⟨"name", .text⟩]⟩,
   ⟨"SetSlot", .record [⟨"receiver", expr⟩, ⟨"name", .text⟩, ⟨"value", expr⟩]⟩,
   ⟨"CallSlot", .record [⟨"receiver", expr⟩, ⟨"name", .text⟩, ⟨"args", .list expr⟩]⟩,
   ⟨"Call", .record [⟨"name", .text⟩, ⟨"args", .list expr⟩]⟩,
   ⟨"Set", .record [⟨"name", .text⟩, ⟨"value", expr⟩]⟩,
   ⟨"If", .record [⟨"pred", expr⟩, ⟨"conseq", stmt⟩, ⟨"alt", stmt⟩]⟩,
   ⟨"While", .record [⟨"pred", expr⟩, ⟨"body", stmt⟩]⟩,
   ⟨"Ref", .single .text⟩]

/-- How the terms of each kind are written. -/
def Kind.layout : Kind → Layout
  | expr => .choice "Exp" exprVariants
  | member => .choice "SlotStmt"
      [⟨"Var", .record [⟨"name", .text⟩, ⟨"init", .term .expr⟩]⟩,
       ⟨"Method", .single (.term .routine)⟩]
  | stmt => .choice "ScopeStmt"
      [⟨"Var", .record [⟨"name", .text⟩, ⟨"init", .term .expr⟩]⟩,
       ⟨"Fn", .single (.term .routine)⟩,
       ⟨"Seq", .row [.term .stmt, .term .stmt]⟩,
       ⟨"Exp", .single (.term .expr)⟩]
  | routine => .record "FnDecl"
      [⟨"name", .text⟩, ⟨"params", .list .text⟩, ⟨"body", .term .stmt⟩]

end SlotLang.Json
