import CommandBridge.Text.Blank
import CommandBridge.Text.Breaks

/-!
# CommandBridge.Settings.EnvFile

Settings files: lines `NAME=value`.

1. Blank lines and comments are skipped, `export` before a name is dropped, and blanks
   around the `=` do not count.  A name alone sets nothing, but takes back
   what an earlier line gave it.
2. A value in single or double quotes may go over several lines; escapes in it
   are decoded, `\'` and `\\` in both, those of control characters in double quotes.
3. Any other value ends with its line, or with a comment that has a blank before it.
4. `${NAME}` and `${NAME:-default}` are replaced by earlier values of the file and
   the environment.
5. Where a text breaks the rules, the rest of that line is skipped.
-/

namespace CommandBridge.Settings.EnvFile

/-- Whether a character is a blank within a line. -/
def isInnerBlank (c : Char) : Bool := Blank.isBlank c && c ≠ '\n'

/-- A text without the blanks of a line at its front. -/
def skipInner (cs : List Char) : List Char := cs.dropWhile isInnerBlank

/-! ## Quoted values -/

/-- The place of the closing quote `q`: the first one that is not escaped or,
where there is none, the last one that is. -/
def closing? (q : Char) : List Char → Nat → Option Nat → Option Nat
  | [], _, escaped => escaped
  | '\\' :: c :: r, i, escaped =>
    if c = q then closing? q r (i + 2) (some (i + 1)) else closing? q (c :: r) (i + 1) escaped
  | c :: r, i, escaped => if c = q then some i else closing? q r (i + 1) escaped

/-- The character of an escape in double quotes. -/
def doubleEscape? : Char → Option Char
  | '\\' => some '\\'
  | '\'' => some '\''
  | '"' => some '"'
  | 'a' => some '\x07'
  | 'b' => some '\x08'
  | 'f' => some '\x0c'
  | 'n' => some '\n'
  | 'r' => some '\r'
  | 't' => some '\t'
  | 'v' => some '\x0b'
  | _ => none

/-- The character of an escape in single quotes. -/
def singleEscape? : Char → Option Char
  | '\\' => some '\\'
  | '\'' => some '\''
  | _ => none

/-- Decodes the escapes of a quoted value; a backslash before anything else stays. -/
def decodeEscapes (escape? : Char → Option Char) : List Char → List Char
  | '\\' :: c :: r =>
    match escape? c with
    | some d => d :: decodeEscapes escape? r
    | none => '\\' :: decodeEscapes escape? (c :: r)
  | c :: r => c :: decodeEscapes escape? r
  | [] => []

/-- A value in quotes `q`, whose text after the opening quote is given. -/
def quoted? (q : Char) (escape? : Char → Option Char) (cs : List Char) :
    Option (List Char × List Char) :=
  (closing? q cs 0 none).map fun n => (decodeEscapes escape? (cs.take n), cs.drop (n + 1))

/-! ## Plain values -/

/-- A line up to a comment that has a blank before it. -/
def dropComment : List Char → List Char
  | [] => []
  | c :: r =>
    if Blank.isBlank c && (r.dropWhile Blank.isBlank).head? = some '#' then []
    else c :: dropComment r

/-- A plain value and what follows its line. -/
def plainValue (cs : List Char) : List Char × List Char :=
  let line := cs.takeWhile (· ≠ '\n')
  (Blank.trimEnd Blank.isBlank (dropComment line), cs.dropWhile (· ≠ '\n'))

/-! ## Lines -/

/-- What was read off the front of a text and what follows it, or the text from where
reading could not go on. -/
abbrev Reading (α : Type) := Except (List Char) (α × List Char)

/-- What was read, if it was read; reading stops at `cs` if it was not. -/
def readingAt {α : Type} (cs : List Char) : Option (α × List Char) → Reading α
  | some r => .ok r
  | none => .error cs

/-- What follows the next line feed. -/
def nextLine (cs : List Char) : List Char := (cs.dropWhile (· ≠ '\n')).drop 1

/-- What follows the end of a line, if only a comment stands before it. -/
def endOfLine (cs : List Char) : Except (List Char) (List Char) :=
  match skipInner cs with
  | [] => .ok []
  | '\n' :: r => .ok r
  | '#' :: r => .ok (nextLine r)
  | _ => .error cs

/-- The name at the front of a line, none for a comment. -/
def name (cs : List Char) : Reading (Option (List Char)) :=
  match cs with
  | '#' :: _ => .ok (none, cs)
  | '\'' :: r =>
    let key := r.takeWhile (· ≠ '\'')
    match r.dropWhile (· ≠ '\'') with
    | _ :: rest => if key.isEmpty then .error cs else .ok (some key, rest)
    | [] => .error cs
  | _ =>
    let isPart (c : Char) : Bool := c ≠ '=' && c ≠ '#' && !Blank.isBlank c
    let key := cs.takeWhile isPart
    if key.isEmpty then .error cs else .ok (some key, cs.dropWhile isPart)

/-- A text without the word `export` at its front. -/
def skipExport (cs : List Char) : List Char :=
  let word := "export".toList
  let rest := cs.drop word.length
  if word.isPrefixOf cs && (rest.head?.map isInnerBlank).getD false then skipInner rest else cs

/-- The value after a name, none if there is no `=`. -/
def value (cs : List Char) : Reading (Option (List Char)) :=
  match cs with
  | '=' :: r =>
    let cs := skipInner r
    match cs with
    | '\'' :: v => readingAt cs ((quoted? '\'' singleEscape? v).map fun (x, rest) => (some x, rest))
    | '"' :: v => readingAt cs ((quoted? '"' doubleEscape? v).map fun (x, rest) => (some x, rest))
    | v => let (x, rest) := plainValue v; .ok (some x, rest)
  | _ => .ok (none, cs)

/-- A name, none for a comment, with its value, none for a name alone. -/
abbrev Binding := Option (List Char) × Option (List Char)

/-- The binding at the front of a text, and what follows its line. -/
def binding (cs : List Char) : Except (List Char) (Binding × List Char) := do
  let (key, rest) ← name (skipExport cs)
  let (value, rest) ← value (skipInner rest)
  let rest ← endOfLine rest
  return ((key, value), rest)

/-- The bindings of a text; `fuel` bounds their number.  Where reading stops
short, it starts again with the next line. -/
def bindings : Nat → List Char → List Binding
  | 0, _ => []
  | fuel + 1, cs =>
    match cs.dropWhile Blank.isBlank with
    | [] => []
    | text =>
      match binding text with
      | .ok (b, rest) => b :: bindings fuel rest
      | .error stop => bindings fuel (nextLine stop)

/-! ## Replacements -/

/-- Looks a name up among values. -/
def find? (name : List Char) (values : List (List Char × Option (List Char))) :
    Option (List Char) :=
  (values.find? fun v => v.1 = name).bind (·.2)

/-- Sets a name in place, or at the end. -/
def insert (name : List Char) (value : Option (List Char)) :
    List (List Char × Option (List Char)) → List (List Char × Option (List Char))
  | [] => [(name, value)]
  | (k, v) :: r => if k = name then (k, value) :: r else (k, v) :: insert name value r

/-- The text of a replacement, given as what stands between the braces. -/
def replacement (lookup : List Char → Option (List Char)) (inner : List Char) : List Char :=
  let name := inner.takeWhile (· ≠ ':')
  let fallback := (inner.dropWhile (· ≠ ':')).drop 2
  (lookup name).getD fallback

/-- Whether what stands between braces has the form of a replacement. -/
def isReplacement (inner : List Char) : Bool :=
  let rest := inner.dropWhile (· ≠ ':')
  rest.isEmpty || [':', '-'].isPrefixOf rest

/-- A value with its replacements made; `fuel` bounds its length. -/
def expand (lookup : List Char → Option (List Char)) : Nat → List Char → List Char
  | 0, cs => cs
  | _, [] => []
  | fuel + 1, '$' :: '{' :: r =>
    let inner := r.takeWhile (· ≠ '}')
    match r.dropWhile (· ≠ '}') with
    | _ :: rest =>
      if isReplacement inner then replacement lookup inner ++ expand lookup fuel rest
      else '$' :: expand lookup fuel ('{' :: r)
    | [] => '$' :: expand lookup fuel ('{' :: r)
  | fuel + 1, c :: r => c :: expand lookup fuel r

/-- The values of a settings file, in the order in which their names first occur. -/
def values (environment : List (String × String)) (text : String) :
    List (List Char × Option (List Char)) :=
  let cs := Breaks.unify text.toList
  (bindings (cs.length + 1) cs).foldl (fun known b =>
    match b.1 with
    | none => known
    | some key =>
      let lookup (name : List Char) : Option (List Char) :=
        match known.find? fun v => v.1 = name with
        | some (_, v) => some (v.getD [])
        | none => (environment.find? fun e => e.1.toList = name).map fun e => e.2.toList
      insert key (b.2.map fun v => expand lookup (v.length + 1) v) known) []

/-! ## Examples -/

example : values [] "A = x # y\nexport B='it\\'s'\nC=${A}-${D:-z}\n" =
    [(['A'], some ['x']), (['B'], some "it's".toList), (['C'], some "x-z".toList)] := by decide +kernel
example : values [] "A=\"x\nB=1\" y\nC" = [(['C'], none)] := by decide +kernel

end CommandBridge.Settings.EnvFile
