/-!
Arguments of a command: options with two dashes, some with a short form of one dash and a letter,
and words. The value of an option stands after an equals sign or is the next argument, which then
begins with no dash unless it is one.
-/

namespace Vacancy.CommandLine

structure Flag where
  name : String
  short : Option Char := none
  takesValue : Bool := true

inductive Argument where
  | word
  /-- Two dashes, after which there are only words. -/
  | dashes
  | long (name : String) (value : Option String)
  | short (letter : Char) (value : Option String)

namespace Argument

def assigned? : List Char → Option String
  | '=' :: cs => some (String.ofList cs)
  | _ => none

def attached? (cs : List Char) : Option String :=
  (assigned? cs).or (if cs.isEmpty then none else some (String.ofList cs))

def ofString (s : String) : Argument :=
  match s.toList with
  | ['-', '-'] => .dashes
  | '-' :: '-' :: cs =>
    .long (String.ofList (cs.takeWhile (· ≠ '='))) (assigned? (cs.dropWhile (· ≠ '=')))
  | '-' :: c :: cs => .short c (attached? cs)
  | _ => .word

def isWord (s : String) : Bool :=
  match ofString s with
  | .word => true
  | _ => false

def isShort : Argument → Bool
  | .short _ _ => true
  | _ => false

def flag? (flags : List Flag) : Argument → Option (Flag × Option String)
  | .long name value => (flags.find? (·.name == name)).map (·, value)
  | .short letter value => (flags.find? (·.short == some letter)).map (·, value)
  | .word | .dashes => none

end Argument

abbrev Setting := String × String

structure Reading where
  settings : List Setting := []
  /-- Whether an argument was met that is no option and no word. -/
  failed : Bool := false
  rest : List String := []

def Reading.cons (s : Setting) (r : Reading) : Reading :=
  { r with settings := s :: r.settings }

def readOptions (flags : List Flag) : List String → Reading
  | [] => {}
  | arg :: args =>
    match Argument.ofString arg with
    | .word => { rest := arg :: args }
    | .dashes => { failed := !args.isEmpty }
    | a =>
      match a.flag? flags with
      | none => { failed := true }
      | some (f, some v) =>
        if f.takesValue then (readOptions flags args).cons (f.name, v)
        else if a.isShort then (readOptions flags args).cons (f.name, "")
        else { failed := true }
      | some (f, none) =>
        if f.takesValue then
          match args with
          | [] => { failed := true }
          | v :: args =>
            if Argument.isWord v then (readOptions flags args).cons (f.name, v)
            else { failed := true }
        else (readOptions flags args).cons (f.name, "")

def optional? (read? : String → Option α) (name : String) (settings : List Setting) :
    Option (Option α) :=
  match settings.filter (·.1 = name) with
  | [] => some none
  | [s] => (read? s.2).map some
  | _ => none

def required? (read? : String → Option α) (name : String) (settings : List Setting) : Option α :=
  (optional? read? name settings).join

def repeated (name : String) (settings : List Setting) : List String :=
  (settings.filter (·.1 = name)).map (·.2)

def switch? (name : String) (settings : List Setting) : Option Bool :=
  (optional? some name settings).map Option.isSome

end Vacancy.CommandLine
