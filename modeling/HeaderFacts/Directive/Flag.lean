import HeaderFacts.Directive.Options

/-!
# Flags of a directive

Each flag changes a draft of the directive: a switch sets an option, a flag with a value reads the
value and stores it. Some flags may be given once only, others add to a list.

Main definitions:

* `Switch`, `ValueFlag` — the flags without and with a value.
* `Draft` — what the arguments read so far say.
* `Draft.flip`, `Draft.store` — what one flag does to a draft.
-/

namespace HeaderFacts

/-- A flag without a value. -/
inductive Switch where
  | composite
  | quote
  | rawTokens
  | largeFile
  deriving DecidableEq, Repr

/-- A flag with a value. -/
inductive ValueFlag where
  | kind
  | enumType
  | pattern
  | exclude
  | strip
  | property
  | rowFormat
  | define
  deriving DecidableEq, Repr

/-- How a switch is written. -/
def Switch.text : Switch → String
  | composite => "-C"
  | quote => "-Q"
  | rawTokens => "-R"
  | largeFile => "-A"

/-- The switch that a text is. -/
def Switch.ofText? : String → Option Switch
  | "-C" => some composite
  | "-Q" => some quote
  | "-R" => some rawTokens
  | "-A" => some largeFile
  | _ => none

/-- How a flag with a value is written. -/
def ValueFlag.text : ValueFlag → String
  | kind => "-w"
  | enumType => "-e"
  | pattern => "-p"
  | exclude => "-x"
  | strip => "-s"
  | property => "-a"
  | rowFormat => "-f"
  | define => "-D"

/-- The flag with a value that a text is. -/
def ValueFlag.ofText? : String → Option ValueFlag
  | "-w" => some kind
  | "-e" => some enumType
  | "-p" => some pattern
  | "-x" => some exclude
  | "-s" => some strip
  | "-a" => some property
  | "-f" => some rowFormat
  | "-D" => some define
  | _ => none

/-- What the arguments read so far say. -/
structure Draft where
  options : Options := {}
  /-- `-a` as it was given; the options hold the property only once its member is known. -/
  selector : Option PropertySelector := none
  defines : List Define := []
  headers : List String := []
  userArgs : List String := []
  deriving DecidableEq, Repr

namespace Draft

/-- The value for an option that is still free; an option that has one is given twice. -/
def once {α : Type} (flag : ValueFlag) (old : Option α) (new : α) :
    Except ExtractionError (Option α) :=
  match old with
  | none => .ok (some new)
  | some _ => .error (.invalid (.flagTwice flag.text))

/-- What a switch does. -/
def flip (d : Draft) : Switch → Draft
  | .composite => { d with options := { d.options with composite := true } }
  | .quote => { d with options := { d.options with quote := true } }
  | .rawTokens => { d with options := { d.options with rawTokens := true } }
  | .largeFile => { d with options := { d.options with largeFile := true } }

/-- What a flag with a value does. The value is read before the flag is found to be a second one. -/
def store (d : Draft) (flag : ValueFlag) (value : String) : Except ExtractionError Draft := do
  match flag with
  | .kind =>
    let kind ← once flag d.options.kind (← NodeKind.ofText value)
    return { d with options := { d.options with kind } }
  | .enumType =>
    let enumType ← once flag d.options.enumType value
    return { d with options := { d.options with enumType } }
  | .pattern =>
    let pattern ← NamePattern.ofSource value
    return { d with options := { d.options with patterns := d.options.patterns ++ [pattern] } }
  | .exclude =>
    return { d with options := { d.options with excluded := d.options.excluded ++ [value] } }
  | .strip =>
    let stripped ← once flag d.options.stripped value
    return { d with options := { d.options with stripped } }
  | .property =>
    return { d with selector := ← once flag d.selector (← PropertySelector.ofText value) }
  | .rowFormat =>
    let rowFormat ← once flag d.options.rowFormat value
    return { d with options := { d.options with rowFormat } }
  | .define =>
    let define ← Define.ofText value
    return { d with defines := d.defines ++ [define] }

end Draft

end HeaderFacts
