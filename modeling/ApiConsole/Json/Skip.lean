import ApiConsole.Json.Reader

/-!
# Passing over JSON values

What is not asked for is passed over without being kept. The text has to have the shape of JSON, but
neither the depth of its nesting nor the meaning of its numbers and escapes is looked at.
-/
namespace ApiConsole.Json

open Text

/-! ## Strings and numbers -/

/-- Passes over a string behind its opening quotation mark, in at most `rounds` steps. -/
def skipString : Nat → List Symbol → Except Fault (List Symbol)
  | 0, s => Fault.before .endInString s
  | _ + 1, [] => Fault.before .endInString []
  | _ + 1, .char '"' :: rest => .ok rest
  | _ + 1, .char '\\' :: [] => Fault.before .endInString []
  | rounds + 1, .char '\\' :: .char 'u' :: rest =>
    match hexFour rest with
    | .error f => .error f
    | .ok (_, rest) => skipString rounds rest
  | rounds + 1, .char '\\' :: x :: rest =>
    if (simpleEscape? x).isSome then skipString rounds rest
    else Fault.onNext .invalidEscape (x :: rest)
  | rounds + 1, .char c :: rest =>
    if c.toNat < 0x20 then Fault.before .controlCharacter (.char c :: rest)
    else skipString rounds rest
  | rounds + 1, .stray _ :: rest => skipString rounds rest

/-- Passes over the digits of an exponent behind its letter. -/
def skipExponent (s : List Symbol) : Except Fault (List Symbol) :=
  let s := match s with
    | .char '+' :: rest => rest
    | .char '-' :: rest => rest
    | s => s
  match s with
  | [] => Fault.before .invalidNumber []
  | x :: rest =>
    if (digit? x).isSome then .ok (spanDigits rest).2 else Fault.onNext .invalidNumber (x :: rest)

/-- Passes over an exponent if its letter comes next. -/
def skipScale : List Symbol → Except Fault (List Symbol)
  | .char 'e' :: rest => skipExponent rest
  | .char 'E' :: rest => skipExponent rest
  | s => .ok s

/-- Passes over what follows the integer digits of a number. -/
def skipTail : List Symbol → Except Fault (List Symbol)
  | .char '.' :: rest =>
    let (digits, tail) := spanDigits rest
    if digits.isEmpty then Fault.onNext .invalidNumber tail else skipScale tail
  | s => skipScale s

/-- Passes over a number behind its sign. -/
def skipNumber : List Symbol → Except Fault (List Symbol)
  | [] => Fault.before .invalidNumber []
  | x :: rest =>
    match digit? x with
    | none => Fault.onNext .invalidNumber (x :: rest)
    | some 0 =>
      match rest with
      | [] => .ok []
      | y :: rest =>
        if (digit? y).isSome then Fault.onNext .invalidNumber (y :: rest) else skipTail (y :: rest)
    | some (_ + 1) => skipTail (spanDigits rest).2

/-! ## Arrays and objects -/

/-- Passes over a key and the colon behind it, the key being the next thing in an object. -/
def skipKey (total : Nat) (s : List Symbol) : Except Fault (List Symbol) :=
  match skipBlanks s with
  | [] => Fault.onNext .endInObject []
  | .char '"' :: rest =>
    match skipString total rest with
    | .error f => .error f
    | .ok rest => colon rest
  | rest => Fault.onNext .keyMustBeString rest

mutual

/-- Passes over a value. Of the three functions, each makes at most `rounds` further calls in a
row. -/
def skipValue (total : Nat) : Nat → List Symbol → Except Fault (List Symbol)
  | 0, s => Fault.before .endInValue s
  | rounds + 1, s =>
    match skipBlanks s with
    | [] => Fault.onNext .endInValue []
    | .char 'n' :: rest => word "ull".toList rest
    | .char 't' :: rest => word "rue".toList rest
    | .char 'f' :: rest => word "alse".toList rest
    | .char '-' :: rest => skipNumber rest
    | .char '"' :: rest => skipString total rest
    | .char '[' :: rest =>
      match skipBlanks rest with
      | [] => Fault.onNext .endInList []
      | .char ']' :: rest => .ok rest
      | rest => skipItems total rounds rest
    | .char '\x7b' :: rest =>
      match skipBlanks rest with
      | [] => Fault.onNext .endInObject []
      | .char '\x7d' :: rest => .ok rest
      | rest => skipMembers total rounds rest
    | x :: rest =>
      if (digit? x).isSome then skipNumber (x :: rest)
      else Fault.onNext .expectedValue (x :: rest)

/-- Passes over the items of a list, the next one being due, and its end. -/
def skipItems (total : Nat) : Nat → List Symbol → Except Fault (List Symbol)
  | 0, s => Fault.before .endInList s
  | rounds + 1, s =>
    match skipValue total rounds s with
    | .error f => .error f
    | .ok rest =>
      match skipBlanks rest with
      | [] => Fault.onNext .endInList []
      | .char ']' :: rest => .ok rest
      | .char ',' :: rest => skipItems total rounds rest
      | rest => Fault.onNext .expectedListEnd rest

/-- Passes over the members of an object, the next one being due, and its end. -/
def skipMembers (total : Nat) : Nat → List Symbol → Except Fault (List Symbol)
  | 0, s => Fault.before .endInObject s
  | rounds + 1, s =>
    match skipKey total s with
    | .error f => .error f
    | .ok rest =>
      match skipValue total rounds rest with
      | .error f => .error f
      | .ok rest =>
        match skipBlanks rest with
        | [] => Fault.onNext .endInObject []
        | .char '\x7d' :: rest => .ok rest
        | .char ',' :: rest => skipMembers total rounds rest
        | rest => Fault.onNext .expectedObjectEnd rest

end

end ApiConsole.Json
