import ExynosHal.Library.Arith
import ExynosHal.Library.Fueled

/-! # Reading the env and conf files

A file is what is left of its lines, each as the words that `>>` extracts from it. A file that could not be
opened only fails: it has no lines and its end is never reached.
-/

namespace ExynosHal.Thermal.Parser
open Library

/-- How a parser ends other than by returning: `exit(0)` after a message, an exception that nothing
catches, or an access that has no defined behaviour. -/
inductive Stop where
  | parseFail (text : String)
  | outOfRange
  | undefined
  deriving DecidableEq

/-- What `>>` extracts is not empty. -/
structure Word where
  text : String
  nonempty : text ≠ ""

def isSpace (c : Char) : Bool := [' ', '\t', '\n', '\x0b', '\x0c', '\r'].contains c

theorem ofList_ne_empty {c : Char} {cs : List Char} : String.ofList (c :: cs) ≠ "" := by
  simp

def Word.ofChars : List Char → Option Word
  | [] => none
  | c :: cs => some ⟨String.ofList (c :: cs), ofList_ne_empty⟩

def words (line : List Char) : List Word := (line.splitOnP isSpace).filterMap Word.ofChars

structure File where
  opened : Bool
  lines : List (List Word)

def File.ofContent : Option (List Char) → File
  | none => { opened := false, lines := [] }
  | some content => { opened := true, lines := (content.splitOn '\n').map words }

def File.eof (file : File) : Bool := file.opened && file.lines.isEmpty

/-- The words left in the stream `line`, and the strings that both parsers read into. -/
structure Strings where
  line : List Word := []
  prop : String := ""
  value : String := ""
  name : String := ""

structure Vars extends Strings where
  file : File

namespace Strings

def setLine (s : Strings) (line : List Word) : Strings :=
  if line.isEmpty then s else { s with line := line }

def extractValue (s : Strings) : Option Strings :=
  match s.line with
  | [] => none
  | word :: line => some { s with line := line, value := word.text }

/-- `line >> value`. A read that fails leaves the string alone. -/
def readValue (s : Strings) : Strings := s.extractValue.getD s

@[inherit_doc readValue]
def readProp (s : Strings) : Strings :=
  match s.line with
  | [] => s
  | word :: line => { s with line := line, prop := word.text }

@[inherit_doc readValue]
def readName (s : Strings) : Strings :=
  match s.line with
  | [] => s
  | word :: line => { s with line := line, name := word.text }

def unbracketed (s : Strings) : Bool := s.name.toList.head? ≠ some '['

/-- `name.erase(name.end() - 1)` and `name.erase(name.begin())`. A name that is one character has
none left for the second. -/
def eraseBrackets (s : Strings) : Except Stop Strings :=
  match s.name.toList.dropLast with
  | [] => .error .undefined
  | _ :: name => .ok { s with name := String.ofList name }

/-- `while (line >> value) values.push_back(value)`: the values and the last of them. -/
def readValues (s : Strings) : List String × Strings :=
  (s.line.map Word.text, { s with line := [], value := s.line.foldl (fun _ word => word.text) s.value })

end Strings

namespace Vars

/-- `getString`, with whether it returns `EOF`. -/
def getString (v : Vars) : Bool × Vars :=
  match v.file.lines with
  | [] => (true, v)
  | line :: lines => (line.isEmpty, { v.setLine line with file := { v.file with lines := lines } })

def readValue (v : Vars) : Vars := { v.toStrings.readValue with file := v.file }

def readProp (v : Vars) : Vars := { v.toStrings.readProp with file := v.file }

def readName (v : Vars) : Vars := { v.toStrings.readName with file := v.file }

end Vars

/-- `atoi`: blanks, a sign and digits. Values beyond a `long` are clamped before the conversion. -/
def atoi (s : String) : Int :=
  let digits (cs : List Char) : Int := (cs.takeWhile Char.isDigit).foldl (fun n c => 10 * n + (c.toNat - 48)) 0
  let n := match s.toList.dropWhile isSpace with
    | '-' :: cs => -digits cs
    | '+' :: cs => digits cs
    | cs => digits cs
  IntType.i32.convert (max (-9223372036854775808) (min n 9223372036854775807))

section
variable {σ : Type} (closes : String → Bool) (property : σ → Strings → Fueled Stop (σ × Strings))

def propertyRound : σ × Vars → Fueled Stop ((σ × Vars) ⊕ (σ × Vars))
  | (body, v) =>
    if v.prop = "" then pure (.inr (body, v))
    else do
      let (body, s) ← property body v.toStrings
      let (eof, v) := ({ s with file := v.file } : Vars).getString
      if eof then return .inr (body, v)
      let v := v.readProp
      if closes v.prop then return .inr (body, v)
      return .inl (body, v)

/-- The `while (!prop.empty())` loop of an item. `property` uses the property that has been read,
`closes` tells whether the next one ends the item. -/
def properties : σ × Vars → Fueled Stop (σ × Vars) := .loop (propertyRound closes property)

end

example : (words "  node_path\t/dev/x ".toList).map Word.text = ["node_path", "/dev/x"] := by decide
example : atoi " -18000x" = -18000 := by decide

end ExynosHal.Thermal.Parser
