import CompileDesk.Json.Reader

/-! # Reading a record out of JSON text

A record has a few named text slots. Its text is an object, in which fields of other names are
skipped, or a list of the slots' values in order. A skipped value is checked for its syntax only:
it may be nested to any depth, its numbers may be too large for 64 bits and its strings may hold
unpaired surrogates.
-/

namespace CompileDesk.Json

/-! ## Skipping values -/

def skipString : Nat → List Char → Option (List Char)
  | 0, _ => none
  | _, [] => none
  | _, '"' :: rest => some rest
  | fuel + 1, '\\' :: 'u' :: rest =>
    match readUnit rest with
    | .ok (_, after) => skipString fuel after
    | .error _ => none
  | fuel + 1, '\\' :: c :: rest => if (shortEscape? c).isSome then skipString fuel rest else none
  | _, '\\' :: [] => none
  | fuel + 1, c :: rest => if c.val < 0x20 then none else skipString fuel rest

def skipDigits : List Char → Option (List Char)
  | [] => none
  | c :: rest => if Text.isDigit c then some (rest.dropWhile Text.isDigit) else none

def skipExponent : List Char → Option (List Char)
  | '+' :: rest => skipDigits rest
  | '-' :: rest => skipDigits rest
  | s => skipDigits s

def skipScale : List Char → Option (List Char)
  | 'e' :: rest => skipExponent rest
  | 'E' :: rest => skipExponent rest
  | s => some s

/-- Skips what may follow the digits before the point. -/
def skipFraction : List Char → Option (List Char)
  | '.' :: rest => (skipDigits rest).bind skipScale
  | s => skipScale s

def skipNumber : List Char → Option (List Char)
  | [] => none
  | c :: rest =>
    if c == '0' then
      if (rest.head?.map Text.isDigit) == some true then none else skipFraction rest
    else if Text.isDigit c then skipFraction (rest.dropWhile Text.isDigit)
    else none

mutual

def skipValue : Nat → List Char → Option (List Char)
  | 0, _ => none
  | fuel + 1, s =>
    match skipSpace s with
    | [] => none
    | c :: rest =>
      if c == 'n' then (readLetters "ull".toList rest).toOption
      else if c == 't' then (readLetters "rue".toList rest).toOption
      else if c == 'f' then (readLetters "alse".toList rest).toOption
      else if c == '-' then skipNumber rest
      else if Text.isDigit c then skipNumber (c :: rest)
      else if c == '"' then skipString (rest.length + 1) rest
      else if c == '[' then skipItems fuel true rest
      else if c == '\x7b' then skipFields fuel true rest
      else none

def skipItems : Nat → Bool → List Char → Option (List Char)
  | 0, _, _ => none
  | fuel + 1, first, s =>
    match skipSpace s with
    | [] => none
    | c :: rest =>
      if c == ']' then some rest
      else if first then (skipValue fuel (c :: rest)).bind (skipItems fuel false)
      else if c == ',' then
        if (skipSpace rest).head? == some ']' then none
        else (skipValue fuel rest).bind (skipItems fuel false)
      else none

def skipFields : Nat → Bool → List Char → Option (List Char)
  | 0, _, _ => none
  | fuel + 1, first, s =>
    let field (t : List Char) : Option (List Char) :=
      match skipSpace t with
      | '"' :: more =>
        (skipString (more.length + 1) more).bind fun after =>
        match skipSpace after with
        | ':' :: value => (skipValue fuel value).bind (skipFields fuel false)
        | _ => none
      | _ => none
    match skipSpace s with
    | [] => none
    | c :: rest =>
      if c == '\x7d' then some rest
      else if first then field (c :: rest)
      else if c == ',' then field rest
      else none

end

/-! ## Records -/

/-- A named text slot; a nullable one may also hold `null`. -/
structure Slot where
  name : String
  nullable : Bool
  deriving DecidableEq, Repr

def readSlot (slot : Slot) (s : List Char) : Option (Option String × List Char) :=
  match skipSpace s with
  | [] => none
  | c :: rest =>
    if c == '"' then (readString rest).toOption.map fun (text, after) => (some text, after)
    else if c == 'n' && slot.nullable then
      (readLetters "ull".toList rest).toOption.map fun after => (none, after)
    else none

abbrev Found := List (String × Option String)

/-- Reads the fields of an object up to its closing brace. A slot that comes twice is refused. -/
def readRecordFields (slots : List Slot) : Nat → Bool → Found → List Char → Option (Found × List Char)
  | 0, _, _, _ => none
  | fuel + 1, first, found, s =>
    let field (t : List Char) : Option (Found × List Char) :=
      match skipSpace t with
      | '"' :: more =>
        match readString more with
        | .error _ => none
        | .ok (name, after) =>
          match skipSpace after with
          | ':' :: value =>
            match slots.find? (·.name == name) with
            | some slot =>
              if (found.lookup name).isSome then none
              else (readSlot slot value).bind fun (v, rest) =>
                readRecordFields slots fuel false (found ++ [(name, v)]) rest
            | none =>
              (skipValue (fuelFor value) value).bind (readRecordFields slots fuel false found)
          | _ => none
      | _ => none
    match skipSpace s with
    | [] => none
    | c :: rest =>
      if c == '\x7d' then some (found, rest)
      else if first then field (c :: rest)
      else if c == ',' then field rest
      else none

/-- Reads the items of a list up to its closing bracket, one for each slot in order. -/
def readRecordItems : List Slot → Bool → Found → List Char → Option (Found × List Char)
  | slots, first, found, s =>
    match skipSpace s with
    | [] => none
    | c :: rest =>
      if c == ']' then some (found, rest)
      else
        match slots with
        | [] => none
        | slot :: more =>
          let value? := if first then some (c :: rest) else if c == ',' then some rest else none
          match value? with
          | none => none
          | some value =>
            (readSlot slot value).bind fun (v, after) =>
              readRecordItems more false (found ++ [(slot.name, v)]) after
termination_by slots => slots.length

def readRecord? (slots : List Slot) (text : String) : Option Found :=
  let read? := match skipSpace text.toList with
    | '[' :: rest => readRecordItems slots true [] rest
    | '\x7b' :: rest => readRecordFields slots (rest.length + 1) true [] rest
    | _ => none
  read?.bind fun (found, after) => if (skipSpace after).isEmpty then some found else none

end CompileDesk.Json
