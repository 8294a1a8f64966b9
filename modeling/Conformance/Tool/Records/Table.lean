import Conformance.Tool.Records.Value
import Std.Data.TreeMap

/-!
# Arrays of scripts for records

An array has elements by keys, which are texts or whole numbers.  Loops go over the
keys in the order of the chains in which they are kept: every key has a chain for its
text, and keys that were used as numbers have one for their value as well.  A key that
is looked up moves to the front of its chain.  The chains of texts are made when they
are first needed.
-/

namespace Conformance.Tool.Records

/-- The key of an element. -/
inductive Key where
  | number (value : Int)
  | text (content : String)

namespace Key

def toText : Key → String
  | .number value => toString value
  | .text content => content

end Key

abbrev Chains (α : Type) := Std.TreeMap Nat (List α) compare

structure Table where
  cells : Std.TreeMap String Value compare
  /-- How many chains there are, less one. -/
  mask : Nat
  /-- Whether the keys are the numbers from one on, not yet in chains. -/
  isRow : Bool
  /-- Whether every key is in a chain of texts. -/
  hasTexts : Bool
  texts : Chains String
  numbers : Chains Int

namespace Table

def firstMask : Nat := 63

/-- How many keys a chain has on average before there are more chains. -/
def chainLimit : Nat := 12

def empty : Table := ⟨∅, firstMask, false, false, ∅, ∅⟩

def size (table : Table) : Nat := table.cells.size

/-- The number from which the chain of a text is taken. -/
def textHash (text : String) : Nat :=
  text.foldl (fun sum c => Nat.xor sum (c.toNat % 256) * 16777619 % 4294967296) 2166136261

def textChain (mask : Nat) (text : String) : Nat := Nat.land (textHash text) mask

def numberChain (mask : Nat) (n : Int) : Nat := (n.emod (Int.ofNat (mask + 1))).toNat

/-- Puts a key at the front of its chain, from where it may have stood. -/
def toFront {α : Type} [BEq α] (chains : Chains α) (index : Nat) (key : α) : Chains α :=
  chains.insert index (key :: (chains.getD index []).erase key)

def remove {α : Type} [BEq α] (chains : Chains α) (index : Nat) (key : α) : Chains α :=
  chains.insert index ((chains.getD index []).erase key)

/-- Twice as many chains; keys keep their order. -/
def doubled (table : Table) : Table :=
  let mask := 2 * table.mask + 1
  let divide {α : Type} (place : α → Nat) (chains : Chains α) : Chains α :=
    (List.range (table.mask + 1)).foldl (fun (done : Chains α) index =>
      let (stays, moves) := (chains.getD index []).partition fun key => place key = index
      (done.insert index stays).insert (index + table.mask + 1) moves) ∅
  { table with
    mask
    texts := divide (textChain mask) table.texts
    numbers := divide (numberChain mask) table.numbers }

/-- Makes room for one more key. -/
def grown (table : Table) : Table :=
  if (table.mask + 1) * chainLimit ≤ table.size then table.doubled else table

/-- Puts the keys of a row into chains; `fuel` bounds the growth. -/
def unrolled (table : Table) : Table :=
  if !table.isRow then table
  else
    let filled := (List.range table.size).foldl (fun (chains : Chains Int) (place : Nat) =>
      let n := Int.ofNat place + 1
      toFront chains (numberChain firstMask n) n) ∅
    let rec enlarge : (fuel : Nat) → Table → Table
      | 0, table => table
      | fuel + 1, table =>
        if (table.mask + 1) * chainLimit < table.size then enlarge fuel table.doubled else table
    enlarge 64 { table with isRow := false, mask := firstMask, numbers := filled }

def withTexts (table : Table) : Table :=
  if table.hasTexts then table
  else
    let table := table.unrolled
    let texts := (List.range (table.mask + 1)).foldl (fun (texts : Chains String) index =>
      (table.numbers.getD index []).foldl (fun texts n =>
        let key := toString n
        toFront texts (textChain table.mask key) key) texts) table.texts
    { table with texts, hasTexts := true }

/-- Looks up a text; it is added if `create`. -/
def visitText (create : Bool) (key : String) (table : Table) : Table :=
  let table := table.withTexts
  if table.cells.contains key then
    { table with texts := toFront table.texts (textChain table.mask key) key }
  else if create then
    let table := table.grown
    { table with
      cells := table.cells.insert key .unset
      texts := toFront table.texts (textChain table.mask key) key }
  else table

/-- Looks up a number; it is added if `create`. -/
def visitNumber (create : Bool) (n : Int) (table : Table) : Table :=
  let isInRow := table.isRow && 1 ≤ n && n ≤ (table.size : Int)
  if isInRow then table
  else
    let table := table.unrolled
    let chain := table.numbers.getD (numberChain table.mask n) []
    if chain.contains n then
      { table with numbers := toFront table.numbers (numberChain table.mask n) n }
    else
      let key := toString n
      let isNew := !table.cells.contains key
      let table := if table.hasTexts then table.visitText create key
        else if create && isNew then
          let table := table.grown
          { table with cells := table.cells.insert key .unset }
        else table
      if table.cells.contains key then
        { table with numbers := toFront table.numbers (numberChain table.mask n) n }
      else table

/-- Looks up a key; it is added if `create`. -/
def visit (create : Bool) (key : Key) (table : Table) : Table :=
  if !create && table.size = 0 then table
  else match key with
    | .number n => table.visitNumber create n
    | .text content => table.visitText create content

def get (table : Table) (key : Key) : Value := table.cells.getD key.toText .unset

def contains (table : Table) (key : Key) : Bool := table.cells.contains key.toText

def set (table : Table) (key : Key) (value : Value) : Table :=
  let table := table.visit true key
  { table with cells := table.cells.insert key.toText value }

def erase (table : Table) (key : Key) : Table :=
  let table := (table.visit false key).unrolled
  let text := key.toText
  if !table.cells.contains text then table
  else if table.size ≤ 1 then empty
  else
    let numbers := match text.toInt? with
      | some n =>
        if toString n = text then remove table.numbers (numberChain table.mask n) n
        else table.numbers
      | none => table.numbers
    { table with
      cells := table.cells.erase text
      texts := remove table.texts (textChain table.mask text) text
      numbers }

/-- The keys in the order of loops, and the array with its texts made. -/
def keys (table : Table) : List String × Table :=
  if table.size = 0 then ([], table)
  else
    let table := table.withTexts
    ((List.range (table.mask + 1)).flatMap fun index => table.texts.getD index [], table)

def ofRow (values : List Value) : Table :=
  if values.isEmpty then empty
  else
    { empty with
      isRow := true
      cells := (values.zipIdx 1).foldl (fun cells (value, i) => cells.insert (toString i) value) ∅ }

end Table

end Conformance.Tool.Records
