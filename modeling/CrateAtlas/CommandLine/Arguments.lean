import CrateAtlas.CommandLine.Switch

/-!
# Reading the command line

A command line is a directory and switches, in any order.

* A **long switch** may be cut short as long as only one switch starts that way, and may have its
  word attached by an equals sign.
* A **short switch** may have its word attached, with or without an equals sign; short switches that
  take no word may be run together.
* A word that starts with a dash is a switch, unless it is a single dash, a negative number, or
  holds a space.  After two dashes alone no word is a switch.
* Of several occurrences of a switch the last one counts.

First all words are told apart, and only then the switches are taken one after the other; so a
switch that cannot be told apart is reported before anything else.
-/

set_option autoImplicit false

namespace CrateAtlas

/-- Why a command line is refused. -/
inductive UsageFault where
  | ambiguous (word : String) (names : List String)
  /-- A switch without a word has one attached. -/
  | superfluous (s : Switch) (word : String)
  | expectedOne (s : Switch)
  | expectedSome (s : Switch)
  | noChoice (s : Switch) (word : String) (choices : List String)
  | unrecognized (words : List String)
deriving DecidableEq, Repr

/-- The words for why a command line is refused. -/
def UsageFault.message : UsageFault → String
  | .ambiguous word names =>
    "ambiguous option: " ++ word ++ " could match " ++ ", ".intercalate names
  | .superfluous s word =>
    "argument " ++ s.title ++ ": ignored explicit argument " ++ Text.quoted word
  | .expectedOne s => "argument " ++ s.title ++ ": expected one argument"
  | .expectedSome s => "argument " ++ s.title ++ ": expected at least one argument"
  | .noChoice s word choices =>
    "argument " ++ s.title ++ ": invalid choice: " ++ Text.quoted word ++ " (choose from " ++
      ", ".intercalate (choices.map Text.quoted) ++ ")"
  | .unrecognized words => "unrecognized arguments: " ++ " ".intercalate words

/-- Why a command line gives no arguments. -/
inductive Stop where
  /-- Help is asked for. -/
  | help
  | usage (fault : UsageFault)
deriving DecidableEq, Repr

/-- What a command line asks for. -/
structure Arguments where
  root : String
  output : Option String
  format : Option String
  orientation : Option String
  dashedImports : Bool
  style : Option String
  excludeTests : Bool
  exclude : Option (List String)
  config : Option String
  verbose : Bool
deriving DecidableEq, Repr

namespace Arguments

/-- What an empty command line asks for. -/
def initial : Arguments :=
  ⟨".", none, none, none, false, none, false, none, none, false⟩

/-- The settings that a command line overrides. -/
def overrides (a : Arguments) : Settings.Given :=
  let text (o : Option String) : Value := (o.map Value.text).getD .null
  let flag (b : Bool) : Value := if b then .bool true else .null
  [("format", text a.format), ("orientation", text a.orientation),
    ("dashed_imports", flag a.dashedImports), ("exclude_tests", flag a.excludeTests),
    ("exclude", (a.exclude.map fun ps => Value.list (ps.map .text)).getD .null),
    ("ascii_style", text a.style)]

/-! ## Telling words apart -/

/-- What is attached to a switch. -/
structure Attached where
  /-- Whether an equals sign stands between. -/
  byEquals : Bool
  text : List Char
deriving DecidableEq, Repr

/-- What a word of the command line is. -/
inductive Role where
  | operand
  | separator
  | switch (s : Switch) (isShort : Bool) (attached : Option Attached)
  | unknown
deriving DecidableEq, Repr

/-- A word cut at its first equals sign. -/
def cut (word : String) : String × Option (List Char) :=
  let cs := word.toList
  match cs.dropWhile (· ≠ '=') with
  | [] => (word, none)
  | _ :: rest => (String.ofList (cs.takeWhile (· ≠ '=')), some rest)

/-- Whether a word is a negative number. -/
def isNegative (cs : List Char) : Bool :=
  match cs with
  | '-' :: rest =>
    let whole := rest.takeWhile Char.isDigit
    match rest.dropWhile Char.isDigit with
    | [] => !whole.isEmpty
    | '.' :: fraction => !fraction.isEmpty && fraction.all Char.isDigit
    | _ => false
  | _ => false

/-- Whether a name has a single dash. -/
def isShortName (name : String) : Bool := (name.toList.drop 1).head? ≠ some '-'

/-- The ways to read a word as a switch that is cut short, or as a short switch with a word
attached: the name of the switch, the switch and what is attached. -/
def readings (word : String) : List (String × Switch × Option Attached) :=
  match word.toList with
  | '-' :: '-' :: _ =>
    let (start, attached) := cut word
    (Switch.table.filter fun (name, _) => start.toList.isPrefixOf name.toList).map
      fun (name, s) => (name, s, attached.map fun cs => ⟨true, cs⟩)
  | '-' :: c :: rest =>
    Switch.table.filterMap fun (name, s) =>
      if name.toList = ['-', c] then some (name, s, some ⟨false, rest⟩)
      else if word.toList.isPrefixOf name.toList then some (name, s, none)
      else none
  | _ => []

/-- What a word is, before two dashes alone. -/
def role (word : String) : Except UsageFault Role :=
  let cs := word.toList
  if cs.head? ≠ some '-' then .ok .operand
  else
    match Switch.named? word with
    | some s => .ok (.switch s (isShortName word) none)
    | none =>
      if cs.length = 1 then .ok .operand
      else
        let (start, attached) := cut word
        match attached, Switch.named? start with
        | some rest, some s => .ok (.switch s (isShortName start) (some ⟨true, rest⟩))
        | _, _ =>
          match readings word with
          | [(name, s, attached)] => .ok (.switch s (isShortName name) attached)
          | [] => .ok (if isNegative cs || cs.contains ' ' then .operand else .unknown)
          | several => .error (.ambiguous word (several.map (·.1)))

/-- A word of the command line and what it is. -/
abbrev Word := String × Role

/-- Tells all words apart. -/
def roles : List String → Except UsageFault (List Word)
  | [] => .ok []
  | "--" :: rest => .ok (("--", .separator) :: rest.map fun word => (word, .operand))
  | word :: rest => do
    let r ← role word
    return (word, r) :: (← roles rest)

/-! ## Taking switches -/

/-- Switches with the words given to them. -/
abbrev Taken := List (Switch × List String)

/-- Short switches that are run together. -/
structure Cluster where
  /-- The switches that are complete. -/
  taken : Taken
  /-- The last switch, if words may follow it. -/
  last : Option Switch
  /-- What is left and is no switch. -/
  extra : Option String

/-- The switch with a letter. -/
def letter? (c : Char) : Option Switch := Switch.named? (String.ofList ['-', c])

/-- Takes a switch with something attached, and the switches that are run together with it. -/
def cluster (s : Switch) (isShort byEquals : Bool) : List Char → Except UsageFault Cluster
  | [] =>
    match s.arity with
    | .zero => .error (.superfluous s "")
    | _ => .ok ⟨[(s, [""])], none, none⟩
  | c :: rest =>
    let text := String.ofList (c :: rest)
    match s.arity with
    | .zero =>
      if !isShort || byEquals || c = '-' then .error (.superfluous s text)
      else
        match letter? c with
        | none => .ok ⟨[(s, [])], none, some ("-" ++ text)⟩
        | some next =>
          let more : Except UsageFault Cluster := match rest with
            | [] => .ok ⟨[], some next, none⟩
            | d :: rest' => if d = '=' then cluster next true true rest'
              else cluster next true false (d :: rest')
          more.map fun k => { k with taken := (s, []) :: k.taken }
    | _ => .ok ⟨[(s, [text])], none, none⟩

/-- Whether a word is an operand. -/
def isOperand (w : Word) : Bool := w.2 = .operand

/-- Takes the words of a switch without anything attached: those words and the rest. -/
def following (s : Switch) (words : List Word) : Except UsageFault (List String × List Word) :=
  match s.arity, words with
  | .zero, _ => .ok ([], words)
  | .one, w :: rest => if isOperand w then .ok ([w.1], rest) else .error (.expectedOne s)
  | .one, [] => .error (.expectedOne s)
  | .many, _ =>
    let given := words.takeWhile isOperand
    if given.isEmpty then .error (.expectedSome s)
    else .ok (given.map (·.1), words.dropWhile isOperand)

/-- Applies a switch. -/
def apply (a : Arguments) (s : Switch) (words : List String) : Except Stop Arguments :=
  match s.choices, words with
  | some choices, word :: _ =>
    if choices.contains word then
      .ok (match s with
        | .format => { a with format := some word }
        | .orientation => { a with orientation := some word }
        | _ => { a with style := some word })
    else .error (.usage (.noChoice s word choices))
  | _, _ =>
    match s with
    | .help => .error .help
    | .output => .ok { a with output := words.head? }
    | .config => .ok { a with config := words.head? }
    | .dashedImports => .ok { a with dashedImports := true }
    | .excludeTests => .ok { a with excludeTests := true }
    | .exclude => .ok { a with exclude := some words }
    | .verbose => .ok { a with verbose := true }
    | _ => .ok a

/-- What has been read of a command line. -/
structure Progress where
  arguments : Arguments
  /-- Whether the directory has been given. -/
  hasRoot : Bool
  /-- The words that nothing takes. -/
  extras : List String

/-- Takes a switch and its words; the result also has the words that are left. -/
def Progress.take (p : Progress) (s : Switch) (isShort : Bool) (attached : Option Attached)
    (words : List Word) : Except Stop (Progress × List Word) := do
  let k ← (match attached with
    | some a => cluster s isShort a.byEquals a.text
    | none => .ok ⟨[], some s, none⟩).mapError Stop.usage
  let (taken, words) ← match k.last with
    | none => pure (k.taken, words)
    | some last => do
      let (given, words) ← (following last words).mapError Stop.usage
      pure (k.taken ++ [(last, given)], words)
  let arguments ← taken.foldlM (fun a (s, given) => a.apply s given) p.arguments
  return ({ p with arguments := arguments, extras := p.extras ++ k.extra.toList }, words)

/-- Takes the words after the last switch: the directory, if it is not given yet, with separators
before and after it. -/
def Progress.close (p : Progress) (words : List Word) : Progress :=
  if p.hasRoot then { p with extras := p.extras ++ words.map (·.1) }
  else
    let isSeparator (w : Word) : Bool := w.2 = .separator
    match words.dropWhile isSeparator with
    | [] => p
    | (root, _) :: rest =>
      { p with
        arguments := { p.arguments with root := root }
        hasRoot := true
        extras := p.extras ++ (rest.dropWhile isSeparator).map (·.1) }

/-- Whether a word stands where a switch does. -/
def isSwitchLike (w : Word) : Bool :=
  match w.2 with
  | .switch .. | .unknown => true
  | _ => false

/-- Reads the words; each step takes at least one of them. -/
def Progress.read (p : Progress) : Nat → List Word → Except Stop Progress
  | 0, _ => .ok p
  | fuel + 1, words =>
    if words.any isSwitchLike then
      match words with
      | [] => .ok p
      | (word, r) :: rest =>
        match r with
        | .switch s isShort attached =>
          match p.take s isShort attached rest with
          | .ok (p, rest) => p.read fuel rest
          | .error stop => .error stop
        | .unknown => { p with extras := p.extras ++ [word] }.read fuel rest
        | _ =>
          if p.hasRoot then { p with extras := p.extras ++ [word] }.read fuel rest
          else
            let arguments := { p.arguments with root := word }
            { p with arguments := arguments, hasRoot := true }.read fuel rest
    else .ok (p.close words)

/-- What a command line asks for. -/
def parse (args : List String) : Except Stop Arguments := do
  let words ← (roles args).mapError Stop.usage
  let p ← Progress.read ⟨initial, false, []⟩ (words.length + 1) words
  if p.extras.isEmpty then return p.arguments else throw (.usage (.unrecognized p.extras))

end Arguments

end CrateAtlas
