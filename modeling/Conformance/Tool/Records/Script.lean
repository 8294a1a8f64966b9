import Conformance.Shell.Regex

/-!
# Scripts for records

A script is a list of rules, each a pattern and an action, and functions.  The
actions run on records that are cut into fields.
-/

namespace Conformance.Tool.Records

open Shell

/-- Where `getline` reads from. -/
inductive LineSource where
  | input
  | file
  | command

inductive Expr where
  | number (value : Float)
  | text (content : List Char)
  /-- An expression by itself is compared with the record. -/
  | regex (pattern : Regex)
  | variable (name : String)
  | field (index : Expr)
  | element (array : String) (indices : List Expr)
  | assign (target : Expr) (operator : Option Char) (value : Expr)
  | conditional (test yes no : Expr)
  | both (left right : Expr)
  | oneOf (left right : Expr)
  | joined (left right : Expr)
  | compared (operator : String) (left right : Expr)
  | computed (operator : Char) (left right : Expr)
  | matching (negated : Bool) (left right : Expr)
  | isIn (indices : List Expr) (array : String)
  | negated (body : Expr)
  | signed (isMinus : Bool) (body : Expr)
  /-- Adds to a variable; `before` tells whether the value is the one from before. -/
  | increment (target : Expr) (before : Bool) (isUp : Bool)
  | call (name : String) (arguments : List Expr)
  | builtin (name : String) (arguments : List Expr)
  /-- Between parentheses, where nothing can be given a value. -/
  | grouped (body : Expr)
  | getline (source : LineSource) (place target : Option Expr)

instance : Inhabited Expr := ⟨.text []⟩

/-- Where `print` writes to. -/
inductive Destination where
  | file (append : Bool)
  | command

inductive Statement where
  | sequence (statements : List Statement)
  | branch (test : Expr) (yes : Statement) (no : Option Statement)
  | whileLoop (test : Expr) (body : Statement)
  | untilDone (body : Statement) (test : Expr)
  | forLoop (start : Statement) (test : Option Expr) (step body : Statement)
  | forEach (name array : String) (body : Statement)
  | print (arguments : List Expr) (target : Option (Destination × Expr))
  | printf (arguments : List Expr) (target : Option (Destination × Expr))
  | delete (array : String) (indices : Option (List Expr))
  | nextRecord
  | nextFile
  | exit (status : Option Expr)
  | returned (value : Option Expr)
  | breakLoop
  | continueLoop
  | evaluate (expression : Expr)

instance : Inhabited Statement := ⟨.sequence []⟩

inductive Pattern where
  | atStart
  | atEnd
  | always
  | when (test : Expr)
  | between (first last : Expr)

structure Rule where
  pattern : Pattern
  /-- Without an action, the record is put out. -/
  action : Option Statement

structure Function where
  name : String
  parameters : List String
  body : Statement

structure Script where
  rules : List Rule
  functions : List Function

end Conformance.Tool.Records
