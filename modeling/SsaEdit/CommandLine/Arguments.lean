/-
The arguments of the command line.

There are two commands, `check` with one file or more and `fmt` with one.  Each
of the three places that take options, the program and its two commands, has a
table of them.  A long option may be shortened as long as only one option of its
place begins that way, and may carry its value after an equals sign; short
options may be written together, with an equals sign after the first or without.
After two dashes everything is an operand, and two dashes as an attached value
withdraw the value.  An operand may begin with a dash when it is a single dash, a
negative number, or no option and holds a blank.

All operands of a command have to stand together.  Options take effect from left
to right, so a request for help wins over a fault that would be found later.
-/
import SsaEdit.Text.Digit
import SsaEdit.Validation

namespace SsaEdit
namespace CommandLine

/-- Why the arguments are no order to carry out. -/
inductive Refusal
  /-- Help was asked for. -/
  | help
  | misuse
  deriving DecidableEq

/-- What an option asks for. -/
inductive OptionKind
  | help
  | verbose
  | json
  | forwardRefs
  deriving DecidableEq

/-- The options of a place, by spelling. -/
abbrev OptionTable := List (List Char × OptionKind)

def helpOptions : OptionTable := [("-h".toList, .help), ("--help".toList, .help)]

def programOptions : OptionTable :=
  helpOptions ++ [("-v".toList, .verbose), ("--verbose".toList, .verbose)]

def checkOptions : OptionTable :=
  helpOptions ++ [("--forward-refs".toList, .forwardRefs), ("--json".toList, .json)]

def fmtOptions : OptionTable := helpOptions

/-! ## Telling options from operands -/

/-- What an argument is. -/
inductive Shape
  | operand
  /-- The first pair of dashes. -/
  | separator
  /-- An option, as it is spelled in its table, with what is attached to it: what
  follows the equals sign, or the letter of a short option. -/
  | option (spelling : List Char) (kind : OptionKind) (attached : Option (List Char))
  | unknown
  deriving DecidableEq

/-- Whether a spelling begins with two dashes. -/
def isLong (spelling : List Char) : Bool := spelling.take 2 = ['-', '-']

/-- Split an argument at its first equals sign. -/
def splitValue (arg : List Char) : List Char × Option (List Char) :=
  match arg.dropWhile (· != '=') with
  | [] => (arg, none)
  | _ :: value => (arg.takeWhile (· != '='), some value)

/-- A minus before digits, with at most one point and a digit after it.  A line
feed may follow. -/
def isNegativeNumber : List Char → Bool
  | '-' :: rest =>
    let digits := if rest.getLast? = some '\n' then rest.dropLast else rest
    let whole := digits.takeWhile Text.isDecimalDigit
    match digits.dropWhile Text.isDecimalDigit with
    | [] => !whole.isEmpty
    | '.' :: fraction => !fraction.isEmpty && fraction.all Text.isDecimalDigit
    | _ => false
  | _ => false

/-- The options that an argument may stand for without being spelled in full. -/
def abbreviations (table : OptionTable) (arg : List Char) : List Shape :=
  match arg with
  | '-' :: '-' :: _ =>
    let (name, value) := splitValue arg
    (table.filter fun entry => name.isPrefixOf entry.1).map fun entry =>
      .option entry.1 entry.2 value
  | _ =>
    (table.filter fun entry => entry.1 = arg.take 2).map fun entry =>
      .option entry.1 entry.2 (some (arg.drop 2))

/-- The shape of an argument before any separator. -/
def shapeOf (table : OptionTable) (arg : List Char) : Except Refusal Shape :=
  if arg.head? ≠ some '-' then .ok .operand
  else
    match table.lookup arg, arg, splitValue arg with
    | some kind, _, _ => .ok (.option arg kind none)
    | none, ['-'], _ => .ok .operand
    | none, _, (name, value) =>
      match if value.isSome then table.lookup name else none, abbreviations table arg with
      | some kind, _ => .ok (.option name kind value)
      | none, [shape] => .ok shape
      | none, _ :: _ :: _ => .error .misuse
      | none, [] =>
        .ok (if isNegativeNumber arg || arg.contains ' ' then .operand else .unknown)

/-- The arguments with their shapes. -/
def shapes (table : OptionTable) : List (List Char) → Except Refusal (List (List Char × Shape))
  | [] => .ok []
  | arg :: rest =>
    if arg = ['-', '-'] then
      .ok ((arg, .separator) :: rest.map fun later => (later, .operand))
    else do
      let shape ← shapeOf table arg
      return (arg, shape) :: (← shapes table rest)

/-! ## Options at work -/

/-- What was asked for so far. -/
structure Settings where
  verbose : Bool := false
  json : Bool := false
  forwardRefs : Option ForwardPolicy := none

namespace Settings

/-- Let an option without a value take effect. -/
def apply (s : Settings) : OptionKind → Except Refusal Settings
  | .help => .error .help
  | .verbose => .ok { s with verbose := true }
  | .json => .ok { s with json := true }
  | .forwardRefs => .error .misuse

/-- Set the policy, which has to be one of the three. -/
def applyPolicy (s : Settings) (value : List Char) : Except Refusal Settings :=
  match ForwardPolicy.ofName? (String.ofList value) with
  | some policy => .ok { s with forwardRefs := some policy }
  | none => .error .misuse

end Settings

/-- The options that letters after one dash stand for.  The first of them is
given, and every letter has to be one. -/
def letters (table : OptionTable) (first : OptionKind) :
    List Char → Except Refusal (List OptionKind)
  | [] => .ok [first]
  | c :: rest =>
    match table.lookup ['-', c] with
    | some kind => (letters table kind rest).map (first :: ·)
    | none => .error .misuse

/-- Let an option with something attached take effect.  An option that takes a
value takes it from there; for the others it can only be more letters. -/
def applyAttached (table : OptionTable) (s : Settings) (spelling : List Char)
    (kind : OptionKind) (attached : List Char) : Except Refusal Settings :=
  if kind = .forwardRefs then
    if attached = ['-', '-'] then .ok { s with forwardRefs := none } else s.applyPolicy attached
  else if isLong spelling || attached.isEmpty then .error .misuse
  else do
    let kinds ← letters table kind attached
    kinds.foldlM Settings.apply s

/-! ## Operands at work -/

/-- What a place takes as operands. -/
inductive Operands
  /-- One file. -/
  | one
  /-- One file or more, in one run. -/
  | many
  /-- The name of a command and all that follows. -/
  | command

def isOperandLike (arg : List Char × Shape) : Bool := arg.2 = .operand || arg.2 = .separator

/-- The operands in front, without the separator among them. -/
def operandsOf (args : List (List Char × Shape)) : List (List Char) :=
  (args.filter fun arg => arg.2 = .operand).map (·.1)

/-- Split the operands that a place takes from what follows them. -/
def Operands.split (wanted : Operands) (args : List (List Char × Shape)) :
    List (List Char × Shape) × List (List Char × Shape) :=
  match wanted with
  | .command => (args, [])
  | .many => (args.takeWhile isOperandLike, args.dropWhile isOperandLike)
  | .one =>
    let leading := args.takeWhile fun arg => arg.2 = .separator
    let rest := args.dropWhile fun arg => arg.2 = .separator
    let trailing := (rest.drop 1).takeWhile fun arg => arg.2 = .separator
    (leading ++ rest.take 1 ++ trailing, rest.drop (1 + trailing.length))

/-- What was found so far: the settings, the operands once they were taken, and
whether something was left over. -/
structure Progress where
  settings : Settings := {}
  operands : Option (List (List Char)) := none
  leftover : Bool := false

/-- Go through the arguments of a place.  Every turn uses up one argument at
least, so as many turns as there are arguments are enough. -/
def gather (table : OptionTable) (wanted : Operands) :
    Nat → List (List Char × Shape) → Progress → Except Refusal Progress
  | 0, _, p => .ok p
  | _, [], p => .ok p
  | turns + 1, (arg, shape) :: rest, p =>
    match shape with
    | .unknown => gather table wanted turns rest { p with leftover := true }
    | .option _ .forwardRefs none =>
      match rest with
      | (value, .operand) :: rest => do
        let s ← p.settings.applyPolicy value
        gather table wanted turns rest { p with settings := s }
      | _ => .error .misuse
    | .option _ kind none => do
      let s ← p.settings.apply kind
      gather table wanted turns rest { p with settings := s }
    | .option spelling kind (some attached) => do
      let s ← applyAttached table p.settings spelling kind attached
      gather table wanted turns rest { p with settings := s }
    | _ =>
      let (mine, others) := wanted.split ((arg, shape) :: rest)
      if p.operands.isSome || (operandsOf mine).isEmpty then
        gather table wanted turns rest { p with leftover := true }
      else
        let taken :=
          match wanted with
          | .command => mine.map (·.1)
          | _ => operandsOf mine
        gather table wanted turns others { p with operands := some taken }

/-- What was found among the arguments of a place. -/
def collect (table : OptionTable) (wanted : Operands) (args : List (List Char))
    (settings : Settings) : Except Refusal Progress := do
  let shaped ← shapes table args
  gather table wanted shaped.length shaped { settings := settings }

/-! ## Orders -/

/-- A command to carry out. -/
inductive Order
  | check (files : List String) (forwardRefs : Option ForwardPolicy) (json : Bool)
  | fmt (file : String)

/-- A command, and whether everything is to be logged. -/
structure Invocation where
  verbose : Bool
  order : Order

/-- The order that a command makes of its arguments. -/
def orderOf (name : List Char) (args : List (List Char)) (settings : Settings) :
    Except Refusal (Order × Bool) :=
  if name = "check".toList then do
    let p ← collect checkOptions .many args settings
    match p.operands with
    | some files =>
      return (.check (files.map String.ofList) p.settings.forwardRefs p.settings.json, p.leftover)
    | none => throw .misuse
  else if name = "fmt".toList then do
    let p ← collect fmtOptions .one args settings
    match p.operands with
    | some [file] => return (.fmt (String.ofList file), p.leftover)
    | _ => throw .misuse
  else throw .misuse

/-- What a whole command line asks for. -/
def parse (args : List String) : Except Refusal Invocation := do
  let p ← collect programOptions .command (args.map String.toList) {}
  match p.operands with
  | some (name :: rest) =>
    let (order, leftover) ← orderOf name rest p.settings
    if p.leftover || leftover then throw .misuse
    return ⟨p.settings.verbose, order⟩
  | _ => throw .misuse

end CommandLine
end SsaEdit
