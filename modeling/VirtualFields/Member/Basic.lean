import VirtualFields.Expr.Basic

/-!
# Program elements

The declared things of a program that a variable may stand for: fields, methods, local
variables and classes.
-/

namespace VirtualFields

/-- A field or a method. -/
inductive Member where
  | field (f : Field Expr)
  | method (m : Method)
  deriving DecidableEq

namespace Member

/-- The part of the declaration that fields and methods share. -/
def declaration : Member → Declaration
  | field f => f.toDeclaration
  | method m => m.toDeclaration

/-- The name of a member. -/
def name (m : Member) : String := m.declaration.name

/-- The owner of a member. -/
def owner (m : Member) : Owner := m.declaration.owner

end Member

/-- A declared program element. -/
inductive Element where
  | member (m : Member)
  /-- A local variable or a parameter. -/
  | localVariable (name : String) (type : Ty)
  /-- A class, the qualifier of static members. -/
  | classRef (className : String)
  deriving DecidableEq

namespace Element

/-- The name of a program element. -/
def name : Element → String
  | member m => m.name
  | localVariable name _ => name
  | classRef className => className

/-- The member that a program element is. -/
def member? : Element → Option Member
  | member m => some m
  | localVariable .. | classRef _ => none

/-- The field that a program element is. -/
def field? : Element → Option (Field Expr)
  | member (.field f) => some f
  | member (.method _) | localVariable .. | classRef _ => none

end Element

end VirtualFields
