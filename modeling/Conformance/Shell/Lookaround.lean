import Conformance.Shell.Integer
import Conformance.Shell.RegexText

/-!
# Expressions that look around

Expressions whose parts are tried in order: the first way that works counts, not the
longest.  They can look ahead and behind, take as little as possible, and keep what they
have taken.
-/

namespace Conformance.Shell

/-- How much a repetition takes first. -/
inductive Greed where
  | most
  | least
  /-- As much as possible, and nothing is given back. -/
  | possessive
deriving DecidableEq, Repr

inductive Trial where
  | empty
  | one (members : CharSet)
  | edge (kind : Edge)
  | seq (first second : Trial)
  | either (first second : Trial)
  | times (body : Trial) (least : Nat) (most : Option Nat) (greed : Greed)
  | group (index : Nat) (body : Trial)
  | again (index : Nat) (folds : Bool)
  | ahead (isWanted : Bool) (body : Trial)
  | behind (isWanted : Bool) (body : Trial)
  /-- What was matched before does not belong to the match. -/
  | restart
deriving Repr

/-- How far a way has come: the place, the groups, and where the match begins. -/
structure Progress where
  place : Nat
  groups : Groups
  start : Nat

namespace Trial

/-- Every way to repeat a step, in the order of preference. -/
def rounds (step : Progress → List Progress) (greed : Greed) :
    (fuel : Nat) → (least : Nat) → (most : Option Nat) → Progress → List Progress
  | 0, _, _, here => [here]
  | fuel + 1, least, most, here =>
    let onward := if most = some 0 then []
      else ((step here).filter fun next => next.place ≠ here.place || 0 < least).flatMap
        (rounds step greed fuel (least - 1) (most.map (· - 1)))
    let stay := if least = 0 then [here] else []
    match greed with
    | .least => stay ++ onward
    | _ => onward ++ stay

/-- Every way to match from a place, in the order of preference. -/
def ways (text : Array Char) : Trial → Progress → List Progress
  | .empty, here => [here]
  | .one members, here =>
    match text[here.place]? with
    | some c => if members.accepts c then [{ here with place := here.place + 1 }] else []
    | none => []
  | .edge kind, here => if (kind.places text.toList).testBit here.place then [here] else []
  | .seq first second, here => (first.ways text here).flatMap (second.ways text)
  | .either first second, here => first.ways text here ++ second.ways text here
  | .times body least most greed, here =>
    let all := rounds (body.ways text) greed (text.size + least + 1) least most here
    if greed = .possessive then all.take 1 else all
  | .group index body, here =>
    (body.ways text here).map fun next =>
      { next with groups := (index, here.place, next.place) ::
          next.groups.filter (·.1 ≠ index) }
  | .again index folds, here =>
    match here.groups.find? (·.1 = index) with
    | some (_, start, finish) =>
      let fold (c : Char) : Char := if folds then c.toLower else c
      let size := finish - start
      let same := (List.range size).all fun n =>
        (text[start + n]?).map fold = (text[here.place + n]?).map fold
      if same && here.place + size ≤ text.size then [{ here with place := here.place + size }]
      else []
    | none => []
  | .ahead isWanted body, here =>
    match body.ways text here with
    | found :: _ => if isWanted then [{ here with groups := found.groups }] else []
    | [] => if isWanted then [] else [here]
  | .behind isWanted body, here =>
    let found := (List.range (here.place + 1)).any fun start =>
      (body.ways text { here with place := start }).any (·.place = here.place)
    if found = isWanted then [here] else []
  | .restart, here => [{ here with start := here.place }]

/-- The first match that begins at a place or behind it. -/
def find? (trial : Trial) (text : List Char) (low : Nat) : Option Match :=
  let chars := text.toArray
  (List.range (text.length + 1 - low)).findSome? fun n =>
    match trial.ways chars ⟨low + n, [], low + n⟩ with
    | found :: _ => some ⟨found.start, found.place, found.groups⟩
    | [] => none

end Trial

/-! ## Reading -/

/-- What is left of an expression, the groups so far, and whether case counts. -/
structure TrialState where
  rest : List Char
  groups : Nat
  folds : Bool

abbrev TrialReader := StateT TrialState (Except String)

namespace TrialReader

def digitSet : CharSet := ⟨false, [('0', '9')]⟩
def blankSet : CharSet := ⟨false, [('\t', '\r'), (' ', ' ')]⟩
def levelSet : CharSet := ⟨false, [('\t', '\t'), (' ', ' ')]⟩

/-- The set that a letter behind a backslash names. -/
def classOf? (c : Char) : Option CharSet :=
  match c with
  | 'd' => some digitSet
  | 'D' => some { digitSet with outside := true }
  | 'w' => some wordSet
  | 'W' => some { wordSet with outside := true }
  | 's' => some blankSet
  | 'S' => some { blankSet with outside := true }
  | 'h' => some levelSet
  | 'H' => some { levelSet with outside := true }
  | 'N' => some { CharSet.only '\n' with outside := true }
  | _ => none

/-- The control character that a letter behind a backslash names. -/
def controlOf? (c : Char) : Option Char :=
  match c with
  | 'n' => some '\n'
  | 't' => some '\t'
  | 'r' => some '\r'
  | 'f' => some '\x0c'
  | 'e' => some '\x1b'
  | 'a' => some '\x07'
  | _ => none

/-- A character of two hexadecimal digits, behind the letter that announces it. -/
def hexChar (text : List Char) : Char × List Char :=
  let digits := (text.take 2).takeWhile fun c => (digitIn? 16 c).isSome
  (Char.ofNat (digits.foldl (fun n c => n * 16 + (digitIn? 16 c).getD 0) 0),
    text.drop digits.length)

/-- The members of brackets up to the closing one; `fuel` bounds them. -/
def members : (fuel : Nat) → (isFirst : Bool) → List (Char × Char) → List Char →
    Except String (List (Char × Char) × List Char)
  | 0, _, _, _ => .error "missing terminating ] for character class"
  | _ + 1, _, _, [] => .error "missing terminating ] for character class"
  | fuel + 1, isFirst, found, c :: rest =>
    if c = ']' && !isFirst then .ok (found, rest)
    else
      let single (c : Char) (rest : List Char) : Except String (List (Char × Char) × List Char) :=
        match rest with
        | '-' :: d :: more =>
          if d = ']' then members fuel false ((c, c) :: found) rest
          else
            let (high, after) := match d, more with
              | '\\', e :: left => ((controlOf? e).getD e, left)
              | _, _ => (d, more)
            if high < c then .error "range out of order in character class"
            else members fuel false ((c, high) :: found) after
        | _ => members fuel false ((c, c) :: found) rest
      match c, rest with
      | '[', ':' :: more =>
        let name := more.takeWhile (· ≠ ':')
        match more.drop name.length, CharSet.classRanges? (String.ofList name) with
        | ':' :: ']' :: after, some ranges => members fuel false (ranges ++ found) after
        | ':' :: ']' :: _, none => .error "unknown POSIX class name"
        | _, _ => single c rest
      | '\\', e :: more =>
        match classOf? e with
        | some set =>
          let ranges := if set.outside then
              (List.range 256).filterMap fun n =>
                if set.accepts (Char.ofNat n) then some (Char.ofNat n, Char.ofNat n) else none
            else set.ranges
          members fuel false (ranges ++ found) more
        | none =>
          if e = 'x' then
            let (c, after) := hexChar more
            single c after
          else single (if e = 'b' then '\x08' else (controlOf? e).getD e) more
      | _, _ => single c rest

def one (set : CharSet) : TrialReader Trial := do
  return .one (if (← get).folds then set.foldCase else set)

def bounds? (text : List Char) : Option (Nat × Option Nat × List Char) :=
  let (low, rest) := RegexStyle.numberAt text
  match low, rest with
  | some n, '\x7d' :: after => some (n, some n, after)
  | some n, ',' :: more =>
    match RegexStyle.numberAt more with
    | (high, '\x7d' :: after) => some (n, high, after)
    | _ => none
  | _, _ => none

/-- Repetitions behind an item; `fuel` bounds them. -/
def repeated : (fuel : Nat) → Trial → TrialReader Trial
  | 0, item => return item
  | fuel + 1, item => do
    let state ← get
    let found : Option (Nat × Option Nat × List Char) := match state.rest with
      | '*' :: rest => some (0, none, rest)
      | '+' :: rest => some (1, none, rest)
      | '?' :: rest => some (0, some 1, rest)
      | '\x7b' :: rest => bounds? rest
      | _ => none
    match found with
    | none => return item
    | some (least, most, rest) =>
      let (greed, after) : Greed × List Char := match rest with
        | '?' :: after => (.least, after)
        | '+' :: after => (.possessive, after)
        | _ => (.most, rest)
      set { state with rest := after }
      repeated fuel (.times item least most greed)

/-- Switches such as `i` between a question mark and a mark that ends them. -/
def switches (text : List Char) : Option (Bool × Char × List Char) :=
  let letters := text.takeWhile fun c => c.isAlpha || c = '-'
  match text.drop letters.length with
  | mark :: rest =>
    if (mark = ')' || mark = ':') && letters.all "imsxJUn-".toList.contains then
      some (letters.contains 'i' && !(letters.dropWhile (· ≠ '-')).contains 'i', mark, rest)
    else none
  | [] => none

mutual

def alternatives : (fuel : Nat) → (depth : Nat) → TrialReader Trial
  | 0, _ => throw "regular expression is too large"
  | fuel + 1, depth => do
    let first ← branch fuel depth
    let state ← get
    match state.rest with
    | '|' :: rest =>
      set { state with rest }
      return .either first (← alternatives fuel depth)
    | _ => return first

def branch : (fuel : Nat) → (depth : Nat) → TrialReader Trial
  | 0, _ => throw "regular expression is too large"
  | fuel + 1, depth => do
    let state ← get
    match state.rest with
    | [] => return .empty
    | '|' :: _ => return .empty
    | ')' :: _ =>
      if depth = 0 then throw "unmatched closing parenthesis" else return .empty
    | _ =>
      let first ← item fuel depth
      let whole ← repeated (fuel + 1) first
      return .seq whole (← branch fuel depth)

def inside : (fuel : Nat) → (depth : Nat) → List Char → TrialReader Trial
  | 0, _, _ => throw "regular expression is too large"
  | fuel + 1, depth, text => do
    let folds := (← get).folds
    modify fun state => { state with rest := text }
    let body ← alternatives fuel (depth + 1)
    let state ← get
    match state.rest with
    | ')' :: rest =>
      set { state with rest, folds }
      return body
    | _ => throw "missing closing parenthesis"

def item : (fuel : Nat) → (depth : Nat) → TrialReader Trial
  | 0, _ => throw "regular expression is too large"
  | fuel + 1, depth => do
    let state ← get
    let put (rest : List Char) : TrialReader Unit := set { state with rest }
    match state.rest with
    | '(' :: '?' :: '=' :: rest => return .ahead true (← inside fuel depth rest)
    | '(' :: '?' :: '!' :: rest => return .ahead false (← inside fuel depth rest)
    | '(' :: '?' :: '<' :: '=' :: rest => return .behind true (← inside fuel depth rest)
    | '(' :: '?' :: '<' :: '!' :: rest => return .behind false (← inside fuel depth rest)
    | '(' :: '?' :: '>' :: rest =>
      return .times (← inside fuel depth rest) 1 (some 1) .possessive
    | '(' :: '?' :: ':' :: rest => inside fuel depth rest
    | '(' :: '?' :: rest =>
      match switches rest with
      | some (folds, ')', after) =>
        set { state with rest := after, folds }
        return .empty
      | some (folds, _, after) =>
        let before := state.folds
        set { state with folds }
        let body ← inside fuel depth after
        modify fun state => { state with folds := before }
        return body
      | none =>
        let name := rest.dropWhile fun c => c = 'P' || c = '<' || c = '\''
        let behind := (name.dropWhile fun c => c ≠ '>' && c ≠ '\'').drop 1
        let index := state.groups + 1
        set { state with groups := index }
        return .group index (← inside fuel depth behind)
    | '(' :: rest =>
      let index := state.groups + 1
      set { state with groups := index }
      return .group index (← inside fuel depth rest)
    | '[' :: rest =>
      let (outside, text) := match rest with
        | '^' :: more => (true, more)
        | _ => (false, rest)
      match members (text.length + 1) true [] text with
      | .error message => throw message
      | .ok (ranges, after) =>
        put after
        let set : CharSet := ⟨false, ranges⟩
        let folded := if state.folds then set.foldCase else set
        return .one { folded with outside }
    | '.' :: rest =>
      put rest
      return .one { CharSet.only '\n' with outside := true }
    | '^' :: rest =>
      put rest
      return .edge .start
    | '$' :: rest =>
      put rest
      return .edge .stop
    | '\\' :: c :: rest =>
      put rest
      match classOf? c with
      | some set => return .one set
      | none =>
        match c with
        | 'b' => return .edge .wordEdge
        | 'B' => return .edge .noWordEdge
        | 'A' => return .edge .start
        | 'z' => return .edge .stop
        | 'Z' => return .edge .stop
        | 'G' => return .edge .start
        | 'K' => return .restart
        | 'x' =>
          let (c, after) := hexChar rest
          put after
          one (.only c)
        | 'Q' =>
          let rec literal : List Char → List Char × List Char
            | '\\' :: 'E' :: after => ([], after)
            | d :: more => let (text, after) := literal more; (d :: text, after)
            | [] => ([], [])
          let (text, after) := literal rest
          put after
          return text.foldr (fun d more =>
            .seq (.one (if state.folds then (CharSet.only d).foldCase else .only d)) more) .empty
        | 'E' => return .empty
        | _ =>
          if '1' ≤ c && c ≤ '9' then return .again (c.toNat - '0'.toNat) state.folds
          else one (.only ((controlOf? c).getD c))
    | ['\\'] => throw "\\ at end of pattern"
    | c :: rest =>
      if "*+?".toList.contains c then throw "quantifier does not follow a repeatable item"
      put rest
      one (.only c)
    | [] => return .empty

end

end TrialReader

def Trial.read (folds : Bool) (text : List Char) : Except String Trial :=
  match (TrialReader.alternatives (4 * text.length + 8) 0).run ⟨text, 0, folds⟩ with
  | .ok (trial, _) => .ok trial
  | .error message => .error message

end Conformance.Shell
