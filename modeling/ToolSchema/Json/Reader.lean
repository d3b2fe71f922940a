import ToolSchema.Json.Scanner

/-!
# Readers

A `Reader` takes a value off the front of a text. That it makes progress is part of its type
(`Reader.shorter`), so that the loops over the items of a list (`foldItems`) and the members of an
object (`foldMembers`) end for every reader of the parts. The loops carry a state: a list collects its
items in it, a record fills its fields.

A text may nest 127 lists and objects. Readers of lists and objects take the depth that is left to
them as an argument (`Reader.nested`).

A mismatch inside a list or object that has no place of its own is placed where the reader stops once
it has passed the bracket that ends it, if that bracket comes next (`passListEnd`, `passObjectEnd`).
-/

namespace ToolSchema

namespace Json

/-- Takes a value off the front of a text, and at least one character with it. -/
structure Reader (α : Type) where
  run : List Char → Scan α
  shorter : ∀ {cs rest : List Char} {v : α}, run cs = .ok (v, rest) → rest.length < cs.length

namespace Reader

variable {α β σ : Type}

/-- Refuses every text. -/
def fail (fault : List Char → Fault) : Reader α where
  run cs := .error (fault cs)
  shorter h := by cases h

/-- Reads and changes the value. -/
def map (f : α → β) (r : Reader α) : Reader β where
  run cs :=
    match r.run cs with
    | .ok (v, rest) => .ok (f v, rest)
    | .error fault => .error fault
  shorter {cs rest v} h := by
    split at h
    · next heq =>
      cases h
      exact r.shorter heq
    · cases h

/-- Reads a part one level deeper, if a level is left. -/
def nested (room : Nat) (body : Nat → Reader α) : Reader α :=
  match room with
  | 0 => fail (.before .tooDeep)
  | room + 1 => body room

end Reader

/-! ### Lists -/

/-- Where a list stands: before its next item, or behind its end. -/
inductive ListStep where
  | item (rest : List Char)
  | done (rest : List Char)

/-- Goes on to the next item of a list, or past its end. -/
def nextItem (first : Bool) (cs : List Char) : Except Fault ListStep :=
  match skipGap cs with
  | [] => .error (.before .endInList [])
  | ']' :: rest => .ok (.done rest)
  | c :: rest =>
    if first then .ok (.item (c :: rest))
    else if c = ',' then
      match skipGap rest with
      | [] => .error (.before .endInValue [])
      | ']' :: last => .error (.onNext .trailingComma (']' :: last))
      | d :: last => .ok (.item (d :: last))
    else .error (.onNext .expectedListEnd (c :: rest))

/-- Passes the end of a list, which must come next. -/
def endList (cs : List Char) : Scan Unit :=
  match skipGap cs with
  | [] => .error (.before .endInList [])
  | ']' :: rest => .ok ((), rest)
  | ',' :: rest =>
    match skipGap rest with
    | ']' :: last => .error (.onNext .trailingComma (']' :: last))
    | last => .error (.onNext .trailingCharacters last)
  | rest => .error (.onNext .trailingCharacters rest)

/-- Passes the end of a list if it comes next, or else a comma. -/
def passListEnd (cs : List Char) : List Char :=
  match skipGap cs with
  | ']' :: rest => rest
  | ',' :: rest => skipGap rest
  | rest => rest

theorem length_le_of_nextItem {first : Bool} {cs rest : List Char}
    (h : nextItem first cs = .ok (.item rest)) : rest.length ≤ cs.length := by
  have hle := length_skipGap_le cs
  unfold nextItem at h
  split at h
  · cases h
  · cases h
  · next c tail _ hs =>
    rw [hs] at hle
    simp only [List.length_cons] at hle
    split at h
    · cases h
      simpa using hle
    · split at h
      · split at h
        · cases h
        · cases h
        · next d last _ hd =>
          have := length_skipGap_le tail
          rw [hd] at this
          cases h
          omega
      · cases h

theorem length_lt_of_nextItem_done {first : Bool} {cs rest : List Char}
    (h : nextItem first cs = .ok (.done rest)) : rest.length < cs.length := by
  unfold nextItem at h
  split at h
  · cases h
  · next hs =>
    cases h
    exact length_rest_lt_of_skipGap hs
  · split at h
    · cases h
    · split at h
      · split at h <;> cases h
      · cases h

theorem length_lt_of_endList {cs rest : List Char} {u : Unit} (h : endList cs = .ok (u, rest)) :
    rest.length < cs.length := by
  unfold endList at h
  split at h
  · cases h
  · next hs =>
    cases h
    exact length_rest_lt_of_skipGap hs
  · split at h <;> cases h
  · cases h

/-- Reads the items of a list up to its end and folds them into a state. -/
def foldItems {σ : Type} (item : σ → Reader σ) (first : Bool) (acc : σ) (cs : List Char) : Scan σ :=
  match _hstep : nextItem first cs with
  | .error fault => .error fault
  | .ok (.done rest) => .ok (acc, rest)
  | .ok (.item rest) =>
    match _hrun : (item acc).run rest with
    | .error fault => .error (fault.settled passListEnd)
    | .ok (acc', rest') => foldItems item false acc' rest'
termination_by cs.length
decreasing_by
  have := length_le_of_nextItem _hstep
  have := (item acc).shorter _hrun
  omega

theorem length_lt_of_foldItems {σ : Type} {item : σ → Reader σ} {first : Bool} {acc v : σ}
    {cs rest : List Char} (h : foldItems item first acc cs = .ok (v, rest)) :
    rest.length < cs.length := by
  fun_induction foldItems item first acc cs with
  | case1 => cases h
  | case2 _ _ _ _ hstep =>
    cases h
    exact length_lt_of_nextItem_done hstep
  | case3 => cases h
  | case4 _ _ _ _ hstep _ _ hrun ih =>
    have := length_le_of_nextItem hstep
    have := Reader.shorter _ hrun
    have := ih h
    omega

/-! ### Objects -/

/-- Where an object stands: behind the key of its next member, or behind its end. -/
inductive ObjectStep where
  | key (name : List Char) (rest : List Char)
  | done (rest : List Char)

/-- Reads a key after its opening quote. -/
def keyStep (cs : List Char) : Except Fault ObjectStep :=
  match scanString cs with
  | .error fault => .error fault
  | .ok (name, rest) => .ok (.key name rest)

/-- Goes on to the next key of an object, or past its end. -/
def nextKey (first : Bool) (cs : List Char) : Except Fault ObjectStep :=
  match skipGap cs with
  | [] => .error (.before .endInObject [])
  | '\x7d' :: rest => .ok (.done rest)
  | c :: rest =>
    if first then
      if c = '"' then keyStep rest else .error (.onNext .keyNotString (c :: rest))
    else if c = ',' then
      match skipGap rest with
      | [] => .error (.before .endInValue [])
      | '"' :: last => keyStep last
      | '\x7d' :: last => .error (.onNext .trailingComma ('\x7d' :: last))
      | d :: last => .error (.onNext .keyNotString (d :: last))
    else .error (.onNext .expectedObjectEnd (c :: rest))

/-- Passes the colon between a key and its value. -/
def passColon (cs : List Char) : Scan Unit :=
  match skipGap cs with
  | [] => .error (.before .endInObject [])
  | ':' :: rest => .ok ((), rest)
  | rest => .error (.onNext .expectedColon rest)

/-- Passes the end of an object if it comes next. -/
def passObjectEnd (cs : List Char) : List Char :=
  match skipGap cs with
  | '\x7d' :: rest => rest
  | rest => rest

theorem length_lt_of_keyStep {cs name rest : List Char} (h : keyStep cs = .ok (.key name rest)) :
    rest.length < cs.length := by
  unfold keyStep at h
  split at h
  · cases h
  · next hs =>
    cases h
    exact length_lt_of_scanString hs

theorem keyStep_ne_done {cs rest : List Char} : keyStep cs ≠ .ok (.done rest) := by
  unfold keyStep
  split <;> intro h <;> cases h

theorem length_lt_of_nextKey {first : Bool} {cs name rest : List Char}
    (h : nextKey first cs = .ok (.key name rest)) : rest.length < cs.length := by
  have hle := length_skipGap_le cs
  unfold nextKey at h
  split at h
  · cases h
  · cases h
  · next c tail _ hs =>
    rw [hs] at hle
    simp only [List.length_cons] at hle
    split at h
    · split at h
      · have := length_lt_of_keyStep h
        omega
      · cases h
    · split at h
      · split at h
        · cases h
        · next hd =>
          have := length_lt_of_keyStep h
          have := length_rest_lt_of_skipGap hd
          omega
        · cases h
        · cases h
      · cases h

theorem length_lt_of_nextKey_done {first : Bool} {cs rest : List Char}
    (h : nextKey first cs = .ok (.done rest)) : rest.length < cs.length := by
  unfold nextKey at h
  split at h
  · cases h
  · next hs =>
    cases h
    exact length_rest_lt_of_skipGap hs
  · split at h
    · split at h
      · exact absurd h keyStep_ne_done
      · cases h
    · split at h
      · split at h
        · cases h
        · exact absurd h keyStep_ne_done
        · cases h
        · cases h
      · cases h

theorem length_lt_of_passColon {cs rest : List Char} {u : Unit} (h : passColon cs = .ok (u, rest)) :
    rest.length < cs.length := by
  unfold passColon at h
  split at h
  · cases h
  · next hs =>
    cases h
    exact length_rest_lt_of_skipGap hs
  · cases h

/-- Reads a value after the colon that announces it. -/
def Reader.afterColon {α : Type} (r : Reader α) : Reader α where
  run cs :=
    match passColon cs with
    | .error fault => .error fault
    | .ok (_, rest) => r.run rest
  shorter {cs rest v} h := by
    split at h
    · cases h
    · next hc =>
      have := length_lt_of_passColon hc
      have := r.shorter h
      omega

/-- Reads the members of an object up to its end and folds them into a state. The reader of a member
starts behind its key. -/
def foldMembers {σ : Type} (member : σ → String → Reader σ) (first : Bool) (acc : σ)
    (cs : List Char) : Scan σ :=
  match _hstep : nextKey first cs with
  | .error fault => .error fault
  | .ok (.done rest) => .ok (acc, rest)
  | .ok (.key name rest) =>
    match _hrun : (member acc (String.ofList name)).run rest with
    | .error fault => .error (fault.settled passObjectEnd)
    | .ok (acc', rest') => foldMembers member false acc' rest'
termination_by cs.length
decreasing_by
  have := length_lt_of_nextKey _hstep
  have := (member acc (String.ofList name)).shorter _hrun
  omega

theorem length_lt_of_foldMembers {σ : Type} {member : σ → String → Reader σ} {first : Bool}
    {acc v : σ} {cs rest : List Char} (h : foldMembers member first acc cs = .ok (v, rest)) :
    rest.length < cs.length := by
  fun_induction foldMembers member first acc cs with
  | case1 => cases h
  | case2 _ _ _ _ hstep =>
    cases h
    exact length_lt_of_nextKey_done hstep
  | case3 => cases h
  | case4 _ _ _ _ _ hstep _ _ hrun ih =>
    have := length_lt_of_nextKey hstep
    have := Reader.shorter _ hrun
    have := ih h
    omega

/-! ### Values -/

namespace Reader

variable {α σ : Type}

/-- Reads what follows the opening bracket of a list. -/
def items (item : σ → Reader σ) (start : σ) : Reader σ where
  run := foldItems item true start
  shorter := length_lt_of_foldItems

/-- Reads what follows the opening bracket of an object. -/
def members (member : σ → String → Reader σ) (start : σ) : Reader σ where
  run := foldMembers member true start
  shorter := length_lt_of_foldMembers

/-- Reads a word, after its first letter, that stands for a value. -/
def scanNamed (word : List Char) (value : Json) (cs : List Char) : Scan Json :=
  match scanWord word cs with
  | .error fault => .error fault
  | .ok (_, rest) => .ok (value, rest)

/-- Reads a value without brackets from its first character on. -/
def scanScalar (c : Char) (rest : List Char) : Scan Json :=
  match c with
  | 'n' => scanNamed ['u', 'l', 'l'] null rest
  | 't' => scanNamed ['r', 'u', 'e'] (bool true) rest
  | 'f' => scanNamed ['a', 'l', 's', 'e'] (bool false) rest
  | '"' =>
    match scanString rest with
    | .error fault => .error fault
    | .ok (text, rest) => .ok (string (String.ofList text), rest)
  | '-' =>
    match scanNumber true rest with
    | .error fault => .error fault
    | .ok (n, rest) => .ok (number n, rest)
  | c =>
    if isDigit c then
      match scanNumber false (c :: rest) with
      | .error fault => .error fault
      | .ok (n, rest) => .ok (number n, rest)
    else .error (.onNext .expectedValue (c :: rest))

theorem length_le_of_scanNamed {word cs rest : List Char} {value j : Json}
    (h : scanNamed word value cs = .ok (j, rest)) : rest.length ≤ cs.length := by
  unfold scanNamed at h
  split at h
  · cases h
  · next hw =>
    cases h
    exact length_le_of_scanWord hw

theorem length_le_of_scanScalar {c : Char} {cs rest : List Char} {j : Json}
    (h : scanScalar c cs = .ok (j, rest)) : rest.length ≤ cs.length := by
  unfold scanScalar at h
  split at h
  · exact length_le_of_scanNamed h
  · exact length_le_of_scanNamed h
  · exact length_le_of_scanNamed h
  · split at h
    · cases h
    · next hs =>
      cases h
      exact Nat.le_of_lt (length_lt_of_scanString hs)
  · split at h
    · cases h
    · next hn =>
      cases h
      exact Nat.le_of_lt (length_lt_of_scanNumber hn)
  · split at h
    · split at h
      · cases h
      · next hn =>
        cases h
        have := length_lt_of_scanNumber hn
        simp only [List.length_cons] at this
        omega
    · cases h

/-- Reads a value: a list and an object by readers of what follows their opening brackets, any other
value whole, to be accepted or refused. -/
def value (accept : Json → Except Mismatch α) (list object : Reader α) : Reader α where
  run cs :=
    match skipGap cs with
    | [] => .error (.before .endInValue [])
    | c :: rest =>
      if c = '[' then list.run rest
      else if c = '\x7b' then object.run rest
      else
        match scanScalar c rest with
        | .error fault => .error fault
        | .ok (j, rest) =>
          match accept j with
          | .ok v => .ok (v, rest)
          | .error mismatch => .error (.placed (.mismatch mismatch) (byteCount rest))
  shorter {cs rest v} h := by
    split at h
    · cases h
    · next c tail hs =>
      have htail := length_rest_lt_of_skipGap hs
      split at h
      · have := list.shorter h
        omega
      · split at h
        · have := object.shorter h
          omega
        · split at h
          · cases h
          · next hj =>
            have := length_le_of_scanScalar hj
            split at h
            · cases h
              omega
            · cases h

/-- Refuses a list or object just before its opening bracket, which has been passed. -/
def refuse (found : Found) (expected : String) : Reader α :=
  fail fun rest ↦ .placed (.mismatch (.invalidType found expected)) (byteCount rest + 1)

/-- Reads a value without brackets that may be refused. -/
def scalar (accept : Json → Except Mismatch α) (expected : String) : Reader α :=
  value accept (refuse .sequence expected) (refuse .map expected)

/-- Reads any value, keeping all members of an object, with `room` levels left. -/
def json (room : Nat) : Reader Json :=
  match room with
  | 0 => value .ok (fail (.before .tooDeep)) (fail (.before .tooDeep))
  | room + 1 =>
    value .ok
      ((items (fun found ↦ (json room).map (· :: found)) []).map fun found ↦ array found.reverse)
      ((members (fun found name ↦ ((json room).map fun j ↦ (name, j) :: found).afterColon) []).map
        fun found ↦ object found.reverse)

end Reader

end Json

end ToolSchema
