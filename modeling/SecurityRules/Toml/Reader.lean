import SecurityRules.Text.LineBreak
import SecurityRules.Toml.Number
import SecurityRules.Toml.Quoted

/-!
# Reading TOML

A document is a sequence of statements: headers that open a table, and keys
with values. Tables grow as statements come in, and a ledger of keys says which
of them may still be opened or added to: a table may be opened by a header only
once, and what was written as a value stays as it was written.

Values nest, so reading them takes fuel. Of any two steps in a row at least one
consumes a code point, so twice the length of the document is always enough.
-/

namespace SecurityRules.Toml

/-- The code points of keys without quotes. -/
def isBareKey : CodePoint → Bool
  | .scalar c => c.isAlphanum || c = '-' || c = '_'
  | .surrogate _ => false

def skipBlanks (t : Text) : Text :=
  t.dropWhile isBlank

/-- Skips a comment up to the line break that ends it. -/
def skipComment (t : Text) : Except Stop Text :=
  match t with
  | .scalar '#' :: rest =>
      let comment := rest.takeWhile (· ≠ .scalar '\n')
      let after := rest.dropWhile (· ≠ .scalar '\n')
      (refuseAny isControl after comment).map fun _ => after
  | t => .ok t

/-- Skips blanks, line breaks and comments. -/
def skipFiller : (fuel : Nat) → Text → Except Stop Text
  | 0, t => .ok t
  | fuel + 1, t =>
      match skipComment (t.dropWhile isBlankOrBreak) with
      | .error stop => .error stop
      | .ok rest => if rest.length = t.length then .ok t else skipFiller fuel rest

/-- One part of a key. -/
def keyPart (t : Text) : Reading Text :=
  match t with
  | .scalar '\'' :: rest => literalString rest
  | .scalar '"' :: rest => basicString false .no 0 rest
  | t =>
      match t.takeWhile isBareKey with
      | [] => stopAt t .badKeyStart
      | part => .ok (part, t.dropWhile isBareKey)

/-- A key, and what follows it and its blanks. -/
def key : (fuel : Nat) → Text → Reading Key
  | 0, t => stopAt t .badKeyStart
  | fuel + 1, t =>
      match keyPart t with
      | .error stop => .error stop
      | .ok (part, rest) =>
          match skipBlanks rest with
          | .scalar '.' :: more =>
              (key fuel (skipBlanks more)).map fun (parts, rest) => (part :: parts, rest)
          | rest => .ok ([part], rest)

/-- Changes the table behind a key, making tables on the way that are not there
yet. With `throughArrays`, an array stands for the last of its tables. `none`
if a part of the key has a value that is no table. -/
def update? (throughArrays : Bool) (change : Table → Option Table) :
    Key → Table → Option Table
  | [], table => change table
  | part :: parts, table =>
      match table.get? part with
      | none => (update? throughArrays change parts []).map fun inner =>
          table.insert part (.table inner)
      | some (.table inner) => (update? throughArrays change parts inner).map fun inner =>
          table.insert part (.table inner)
      | some (.array items) =>
          match throughArrays, items.getLast? with
          | true, some (.table inner) =>
              (update? throughArrays change parts inner).map fun inner =>
                table.insert part (.array (items.dropLast ++ [.table inner]))
          | _, _ => none
      | some _ => none

/-- The parts of a key before its last, and the last. -/
def splitLast (k : Key) : Key × Text :=
  (k.dropLast, k.getLast?.getD [])

def Value.isContainer : Value → Bool
  | .array _ | .table _ => true
  | _ => false

/-- Whether a key lies at or below one of some keys. -/
def isUnder (keys : List Key) (k : Key) : Bool :=
  keys.any (·.isPrefixOf k)

/-- An inline table that is being read: its entries, and the keys whose values
may not be added to. -/
structure InlineTable where
  entries : Table := []
  frozen : List Key := []

/-- Adds an entry to an inline table. `rest` is where a complaint is placed. -/
def InlineTable.add (table : InlineTable) (k : Key) (v : Value) (rest : Text) :
    Except Stop InlineTable :=
  let (parent, part) := splitLast k
  if isUnder table.frozen k then stopAt rest (.immutable k)
  else
    match update? false some parent table.entries with
    | none => stopAt rest .overwrites
    | some _ =>
        let insert (t : Table) : Option Table :=
          if t.has part then none else some (t.insert part v)
        match update? false insert parent table.entries with
        | none => stopAt rest (.duplicateKey part)
        | some entries =>
            .ok { entries, frozen := if v.isContainer then k :: table.frozen else table.frozen }

/-- A value that has no parts, if the text starts with one. -/
def simple? (t : Text) : Option (Reading Value) :=
  match string? t with
  | some reading => some (reading.map fun (s, rest) => (.string s, rest))
  | none =>
      match Text.after? "true" t, Text.after? "false" t with
      | some rest, _ => some (.ok (.bool true, rest))
      | _, some rest => some (.ok (.bool false, rest))
      | none, none =>
          (moment? t).or ((number? t).or ((floatWord? t).map .ok))

mutual

/-- A value. -/
def value : (fuel : Nat) → Text → Reading Value
  | 0, t => stopAt t .badValue
  | fuel + 1, t =>
      match t with
      | .scalar '[' :: rest =>
          match skipFiller rest.length rest with
          | .error stop => .error stop
          | .ok (.scalar ']' :: after) => .ok (.array [], after)
          | .ok inside => (items fuel inside).map fun (vs, after) => (.array vs, after)
      | .scalar '\x7b' :: rest =>
          match skipBlanks rest with
          | .scalar '\x7d' :: after => .ok (.table [], after)
          | inside =>
              (inlineEntries fuel {} inside).map fun (table, after) =>
                (.table table.entries, after)
      | t =>
          match simple? t with
          | some reading => reading
          | none => stopAt t .badValue

/-- The items of an array from one of them to its closing bracket. -/
def items : (fuel : Nat) → Text → Reading (List Value)
  | 0, t => stopAt t .unclosedArray
  | fuel + 1, t =>
      match value fuel t with
      | .error stop => .error stop
      | .ok (v, rest) =>
          match skipFiller rest.length rest with
          | .error stop => .error stop
          | .ok (.scalar ']' :: after) => .ok ([v], after)
          | .ok (.scalar ',' :: more) =>
              match skipFiller more.length more with
              | .error stop => .error stop
              | .ok (.scalar ']' :: after) => .ok ([v], after)
              | .ok next => (items fuel next).map fun (vs, after) => (v :: vs, after)
          | .ok rest => stopAt rest .unclosedArray

/-- The entries of an inline table from one of them to its closing brace. -/
def inlineEntries : (fuel : Nat) → InlineTable → Text → Reading InlineTable
  | 0, _, t => stopAt t .unclosedInlineTable
  | fuel + 1, table, t =>
      match keyAndValue fuel t with
      | .error stop => .error stop
      | .ok ((k, v), rest) =>
          match table.add k v rest with
          | .error stop => .error stop
          | .ok table =>
              match skipBlanks rest with
              | .scalar '\x7d' :: after => .ok (table, after)
              | .scalar ',' :: more => inlineEntries fuel table (skipBlanks more)
              | rest => stopAt rest .unclosedInlineTable

/-- A key, an equals sign and a value. -/
def keyAndValue : (fuel : Nat) → Text → Reading (Key × Value)
  | 0, t => stopAt t .badKeyStart
  | fuel + 1, t =>
      match key (t.length + 1) t with
      | .error stop => .error stop
      | .ok (k, .scalar '=' :: rest) =>
          (value fuel (skipBlanks rest)).map fun (v, after) => ((k, v), after)
      | .ok (_, rest) => stopAt rest .missingEquals

end

/-- A document that is being read: its tables, the table that is open, and the
ledger. A key in `opened` may not be opened by a header any more, one in
`pending` from the next header on. What lies at or below a key in `frozen` may
not be added to. -/
structure Document where
  root : Table := []
  header : Key := []
  opened : List Key := []
  pending : List Key := []
  frozen : List Key := []

namespace Document

/-- The keys above the last part of a dotted key, below an open table. -/
def pathsAbove (header k : Key) : List Key :=
  (List.range (k.length - 1)).map fun i => header ++ k.take (i + 1)

/-- Adds a key with its value. `rest` is where a complaint is placed. -/
def assign (d : Document) (k : Key) (v : Value) (rest : Text) : Except Stop Document :=
  let (above, part) := splitLast k
  let parent := d.header ++ above
  let paths := pathsAbove d.header k
  match paths.find? d.opened.contains with
  | some path => stopAt rest (.redefines path)
  | none =>
      if isUnder d.frozen parent then stopAt rest (.immutable parent)
      else
        let insert (t : Table) : Option Table :=
          if t.has part then none else some (t.insert part v)
        match update? true insert parent d.root with
        | none => stopAt rest .overwrites
        | some root =>
            .ok { d with
              root
              pending := paths ++ d.pending
              frozen := if v.isContainer then (d.header ++ k) :: d.frozen else d.frozen }

/-- Lets the keys that were waiting for a header count as opened. -/
def settle (d : Document) : Document :=
  { d with opened := d.pending ++ d.opened, pending := [] }

/-- Opens a table. -/
def openTable (d : Document) (k : Key) (rest : Text) : Except Stop Document :=
  if d.opened.contains k || isUnder d.frozen k then stopAt rest (.declaredTwice k)
  else
    match update? true some k d.root with
    | none => stopAt rest .overwrites
    | some root => .ok { d with root, header := k, opened := k :: d.opened }

/-- Adds a table to an array of tables and opens it. What was known about keys
at or below it is about another table from now on. -/
def openItem (d : Document) (k : Key) (rest : Text) : Except Stop Document :=
  let (parent, part) := splitLast k
  let append (t : Table) : Option Table :=
    match t.get? part with
    | none => some (t.insert part (.array [.table []]))
    | some (.array items) => some (t.insert part (.array (items ++ [.table []])))
    | some _ => none
  if isUnder d.frozen k then stopAt rest (.immutable k)
  else
    match update? true append parent d.root with
    | none => stopAt rest .overwrites
    | some root =>
        .ok { d with
          root
          header := k
          opened := k :: d.opened.filter (!k.isPrefixOf ·)
          frozen := d.frozen.filter (!k.isPrefixOf ·) }

/-- One statement that does not start with a comment or a line break. -/
def statement (d : Document) (t : Text) : Reading Document :=
  let fuel := t.length + 1
  match t with
  | .scalar '[' :: .scalar '[' :: rest =>
      match key fuel (skipBlanks rest) with
      | .error stop => .error stop
      | .ok (k, rest) =>
          match d.settle.openItem k rest with
          | .error stop => .error stop
          | .ok d =>
              match Text.after? "]]" rest with
              | some after => .ok (d, after)
              | none => stopAt rest .unfinishedArrayOfTables
  | .scalar '[' :: rest =>
      match key fuel (skipBlanks rest) with
      | .error stop => .error stop
      | .ok (k, rest) =>
          match d.settle.openTable k rest with
          | .error stop => .error stop
          | .ok d =>
              match Text.after? "]" rest with
              | some after => .ok (d, after)
              | none => stopAt rest .unfinishedTable
  | c :: _ =>
      if isBareKey c || c = .scalar '"' || c = .scalar '\'' then
        match keyAndValue (2 * fuel) t with
        | .error stop => .error stop
        | .ok ((k, v), rest) => (d.assign k v rest).map (·, rest)
      else stopAt t .invalidStatement
  | [] => .ok (d, [])

/-- The statements of a document, one after another. -/
def statements : (fuel : Nat) → Document → Text → Except Stop Document
  | 0, d, _ => .ok d
  | fuel + 1, d, t =>
      match skipBlanks t with
      | [] => .ok d
      | .scalar '\n' :: rest => statements fuel d rest
      | start =>
          let reading : Reading Document := match start with
            | .scalar '#' :: _ => .ok (d, start)
            | _ => d.statement start
          match reading with
          | .error stop => .error stop
          | .ok (d, rest) =>
              match skipComment (skipBlanks rest) with
              | .error stop => .error stop
              | .ok [] => .ok d
              | .ok (.scalar '\n' :: rest) => statements fuel d rest
              | .ok rest => stopAt rest .unfinishedStatement

end Document

/-- Reads a document. -/
def read (document : Text) : Except Fault Table :=
  let t := document.joinBreaks
  match Document.statements (t.length + 1) {} t with
  | .ok d => .ok d.root
  | .error stop => .error (stop.fault t)

end SecurityRules.Toml
