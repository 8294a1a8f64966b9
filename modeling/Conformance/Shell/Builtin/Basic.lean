import Conformance.Shell.Evaluate
import Conformance.Shell.Signal

/-!
# Commands of the shell itself

What the commands of a shell have in common: how they take options and numbers, and
how they show texts so that a shell can read them again.
-/

namespace Conformance.Shell.Builtin

open Machine

/-- A command that changes nothing about how mistakes are taken. -/
def regular (run : Runner → Manner → List String → Sh Nat) : Builtin := ⟨run, false, false⟩

/-- A command whose mistakes end the script. -/
def special (run : Runner → Manner → List String → Sh Nat) : Builtin := ⟨run, true, false⟩

/-- Takes options off the arguments.  `rules` has the letters; a colon behind one tells
that it has a value. -/
def options (rules : List Char) : (arguments : List String) →
    Sh (List (Char × String) × List String)
  | [] => return ([], [])
  | word :: rest =>
    match word.toList with
    | ['-', '-'] => return ([], rest)
    | '-' :: c :: more => do
      let (found, valued) ← letters [] (c :: more)
      match valued with
      | none =>
        let (others, left) ← options rules rest
        return (found ++ others, left)
      | some letter =>
        match rest with
        | value :: behind =>
          let (others, left) ← options rules behind
          return (found ++ (letter, value) :: others, left)
        | [] => Sh.fail ("No arg for -" ++ String.singleton letter ++ " option")
    | _ => return ([], word :: rest)
where
  /-- The letters of one word, and the one whose value is the next word. -/
  letters (found : List (Char × String)) : List Char → Sh (List (Char × String) × Option Char)
    | [] => return (found.reverse, none)
    | c :: more =>
      match rules.dropWhile (· ≠ c) with
      | [] => Sh.fail ("Illegal option -" ++ String.singleton c)
      | _ :: ':' :: _ =>
        if more.isEmpty then return (found.reverse, some c)
        else return (((c, String.ofList more) :: found).reverse, none)
      | _ => if c = ':' then Sh.fail "Illegal option -:" else letters ((c, "") :: found) more

def number (text : String) : Sh Nat := do
  match count? text with
  | some n => return n
  | none => Sh.fail ("Illegal number: " ++ text)

/-- A text between single quotes; those inside it stand between double quotes. -/
def quoted (text : String) : String :=
  let runs := text.toList.splitBy fun a b => (a = '\'') = (b = '\'')
  let shown (run : List Char) : String :=
    if run.head? = some '\'' then "\"" ++ String.ofList run ++ "\""
    else "'" ++ String.ofList run ++ "'"
  let front := if text.toList.head? = some '\'' || text.isEmpty then "''" else ""
  front ++ String.join (runs.map shown)

def nameAndValue (word : String) : String × Option String :=
  let chars := word.toList
  let name := String.ofList (chars.takeWhile (· ≠ '='))
  match chars.dropWhile (· ≠ '=') with
  | [] => (name, none)
  | _ :: value => (name, some (String.ofList value))

def padded (width : Nat) (text : String) : String :=
  text ++ String.ofList (List.replicate (width - text.length) ' ')

end Conformance.Shell.Builtin
