import SqlAudit.Proofs.Value.Words

/-
  Reading JSON text.

  The symbols of a text are read one by one, with a stack of
  the lists and records that are still open. The text of a
  value is read as this value.

  Key definitions include:
    * `SqlAudit.Json.Reader.step`
    * `SqlAudit.Json.read`
    * `SqlAudit.Value.document`

  Key theorems include:
    * `SqlAudit.Json.Bracket.readFrom_block`
    * `SqlAudit.Json.reads_value`
    * `SqlAudit.Value.read_json`
-/

------------------------------------------------------------
-- Readers
------------------------------------------------------------

namespace SqlAudit.Json

/-
  What is open around a value: a list with the items before
  it, or a record with the fields before it and its name.
-/
inductive Frame where
| list (items : List Document)
| field
    (fields : List (List Char × Document))
    (name : List Char)
  deriving Repr

/-
  Where the reader is: before a value, before the name of a
  field, behind the name, or behind a value. Right behind an
  opening bracket, the list or the record may end.
-/
inductive Reader where
| value (first : Bool) (stack : List Frame)
| name
    (first : Bool)
    (fields : List (List Char × Document))
    (stack : List Frame)
| colon
    (fields : List (List Char × Document))
    (name : List Char)
    (stack : List Frame)
| behind (d : Document) (stack : List Frame)
  deriving Repr

namespace Reader

/- The next symbol. -/
def step : Reader → Symbol → Option Reader
| .value _ stack, .text s => some (behind (.text s) stack)
| .value _ stack, .word w =>
    (ofWord? w).map (behind · stack)
| .value _ stack, .openList =>
    some (value true (.list [] :: stack))
| .value _ stack, .openRecord => some (name true [] stack)
| .value true (.list [] :: stack), .closeList =>
    some (behind (.list []) stack)
| .name _ fields stack, .text s => some (colon fields s stack)
| .name true [] stack, .closeRecord =>
    some (behind (.record []) stack)
| .colon fields s stack, .colon =>
    some (value false (.field fields s :: stack))
| .behind d (.list items :: stack), .comma =>
    some (value false (.list (items ++ [d]) :: stack))
| .behind d (.list items :: stack), .closeList =>
    some (behind (.list (items ++ [d])) stack)
| .behind d (.field fields s :: stack), .comma =>
    some (name false (fields ++ [(s, d)]) stack)
| .behind d (.field fields s :: stack), .closeRecord =>
    some (behind (.record (fields ++ [(s, d)])) stack)
| _, _ => none

/- All symbols that are left. -/
def run : Reader → List Symbol → Option Document
| .behind d [], [] => some d
| _, [] => none
| place, symbol :: rest =>
    (place.step symbol).bind fun next => run next rest

end Reader

/- The rest of a text, from a place of the reader on. -/
def readFrom
    (place : Reader)
    (rest : List Char) : Option Document :=
  (symbols .between rest).bind place.run

/- What a text says, if it is JSON. -/
def read (s : List Char) : Option Document :=
  readFrom (.value false []) s

end SqlAudit.Json

namespace SqlAudit.Value

mutual

/- The value as a document. -/
def document : Value → Json.Document
| .null => .null
| .flag b => .flag b
| .integer n => .integer n
| .real x => .number (Json.real x)
| .text s => .text s.toList
| .list items => .list (documents items)
| .record fields => .record (fieldDocuments fields)

/- The items of a list as documents. -/
def documents : List Value → List Json.Document
| [] => []
| v :: vs => document v :: documents vs

/- The fields of a record as documents. -/
def fieldDocuments :
    List (String × Value) →
      List (List Char × Json.Document)
| [] => []
| (name, v) :: fields =>
    (name.toList, document v) :: fieldDocuments fields

end

end SqlAudit.Value

------------------------------------------------------------
-- Reading What Was Written
------------------------------------------------------------

namespace SqlAudit.Json

/- A symbol at the front of a text is the next step. -/
theorem readFrom_of_symbols
    {front rest : List Char}
    {symbol : Symbol}
    (hSymbols :
      symbols .between (front ++ rest) =
        (symbols .between rest).map (symbol :: ·))
    {place next : Reader}
    (hStep : place.step symbol = some next) :
    readFrom place (front ++ rest) = readFrom next rest := by
  rw [readFrom, readFrom, hSymbols]
  cases symbols .between rest with
  | none => rfl
  | some found => simp [Reader.run, hStep]

theorem readFrom_mark
    {c : Char}
    {m : Symbol}
    (hMark : mark? c = some m)
    {place next : Reader}
    (hStep : place.step m = some next)
    (rest : List Char) :
    readFrom place (c :: rest) = readFrom next rest := by
  have hSymbols :
      symbols .between ([c] ++ rest) =
        (symbols .between rest).map (m :: ·) :=
    symbols_mark hMark rest
  exact readFrom_of_symbols hSymbols hStep

theorem readFrom_text
    (s : List Char)
    {place next : Reader}
    (hStep : place.step (.text s) = some next)
    (rest : List Char) :
    readFrom place (text s ++ rest) = readFrom next rest :=
  readFrom_of_symbols (symbols_text s rest) hStep

theorem readFrom_newLine
    (place : Reader)
    (level : Nat)
    (rest : List Char) :
    readFrom place (newLine level ++ rest) =
      readFrom place rest := by
  rw [readFrom, readFrom, symbols_newLine]

/-
  The text of the value leads from before the value to behind
  it, whatever is open around it.
-/
def Reads
    (level : Nat)
    (v : Value) : Prop :=
  ∀ (first : Bool) (stack : List Frame) (rest : List Char),
    Breaks rest →
      readFrom (.value first stack) (value level v ++ rest) =
        readFrom (.behind v.document stack) rest

theorem SpelledBy.reads
    {level : Nat}
    {v : Value}
    {d : Document}
    {w : List Char}
    (hSpelled : SpelledBy d w)
    (hDocument : v.document = d)
    (hText : value level v = w) :
    Reads level v := by
  intro first stack rest hBreaks
  rw [hDocument, hText]
  have hSymbols :=
    symbols_word hSpelled.ne_nil hSpelled.word hBreaks
  apply readFrom_of_symbols hSymbols
  simp [Reader.step, hSpelled.meaning]

/-
  How what is between brackets is read, part by part: where
  the reader is before a part, behind it and behind the
  closing bracket, with what is made of the parts so far.
-/
structure Bracket (α δ : Type) where
  closing : Symbol
  made : α → δ
  before : Bool → List δ → Reader
  behind : List δ → α → Reader
  finished : List δ → Reader
  empty :
    (before true []).step closing = some (finished [])
  comma :
    ∀ done x, (behind done x).step .comma =
      some (before false (done ++ [made x]))
  close :
    ∀ done x, (behind done x).step closing =
      some (finished (done ++ [made x]))

namespace Bracket

/- The items of a list. -/
def list (stack : List Frame) : Bracket Value Document where
  closing := .closeList
  made := Value.document
  before first done := .value first (.list done :: stack)
  behind done v := .behind v.document (.list done :: stack)
  finished all := .behind (.list all) stack
  empty := rfl
  comma _ _ := rfl
  close _ _ := rfl

/- The fields of a record. -/
def record
    (stack : List Frame) :
    Bracket (String × Value) (List Char × Document) where
  closing := .closeRecord
  made f := (f.1.toList, f.2.document)
  before first done := .name first done stack
  behind done f :=
    .behind f.2.document (.field done f.1.toList :: stack)
  finished all := .behind (.record all) stack
  empty := rfl
  comma _ _ := rfl
  close _ _ := rfl

variable {α δ : Type}

/- Parts with commas between them, up to the bracket. -/
theorem readFrom_parts
    (b : Bracket α δ)
    {write : α → List Char}
    {right : Char}
    (hRight : mark? right = some b.closing)
    (level outer : Nat)
    {x : α}
    {xs : List α}
    (hEach :
      ∀ y ∈ x :: xs, ∀ first done rest, Breaks rest →
        readFrom (b.before first done) (write y ++ rest) =
          readFrom (b.behind done y) rest)
    (first : Bool)
    (done : List δ)
    (rest : List Char) :
    readFrom (b.before first done)
        ((',' :: newLine level).intercalate
          ((x :: xs).map write) ++
            (newLine outer ++ right :: rest)) =
      readFrom (b.finished (done ++ (x :: xs).map b.made))
        rest := by
  induction xs generalizing x first done with
  | nil =>
      have hBreaks :
          Breaks (newLine outer ++ right :: rest) :=
        breaks_cons rfl _
      rw [List.map_singleton, List.intercalate_singleton,
        hEach x List.mem_cons_self _ _ _ hBreaks,
        readFrom_newLine,
        readFrom_mark hRight (b.close done x)]
      rfl
  | cons y xs ih =>
      rcases List.forall_mem_cons.mp hEach with ⟨hHead, hTail⟩
      let more :=
        newLine level ++
          ((',' :: newLine level).intercalate
            ((y :: xs).map write) ++
              (newLine outer ++ right :: rest))
      have hText :
          (',' :: newLine level).intercalate
              ((x :: y :: xs).map write) ++
                (newLine outer ++ right :: rest) =
            write x ++ ',' :: more := by
        simp [more, List.intercalate_cons_cons]
      have hBreaks : Breaks (',' :: more) := breaks_cons rfl _
      rw [hText, hHead _ _ _ hBreaks,
        readFrom_mark rfl (b.comma done x), readFrom_newLine,
        ih hTail, List.append_assoc]
      rfl

/- All that is between brackets, the brackets included. -/
theorem readFrom_block
    (b : Bracket α δ)
    {write : α → List Char}
    {left right : Char}
    {opening : Symbol}
    {place : Reader}
    (hLeft : mark? left = some opening)
    (hRight : mark? right = some b.closing)
    (hOpen : place.step opening = some (b.before true []))
    (level : Nat)
    {xs : List α}
    (hEach :
      ∀ x ∈ xs, ∀ first done rest, Breaks rest →
        readFrom (b.before first done) (write x ++ rest) =
          readFrom (b.behind done x) rest)
    (rest : List Char) :
    readFrom place
        (block left right level (xs.map write) ++ rest) =
      readFrom (b.finished (xs.map b.made)) rest := by
  cases xs with
  | nil =>
      exact (readFrom_mark hLeft hOpen (right :: rest)).trans
        (readFrom_mark hRight b.empty rest)
  | cons x xs =>
      have hText :
          block left right level ((x :: xs).map write) ++
              rest =
            left :: (newLine (level + 1) ++
              ((',' :: newLine (level + 1)).intercalate
                ((x :: xs).map write) ++
                  (newLine level ++ right :: rest))) := by
        simp [block]
      rw [hText, readFrom_mark hLeft hOpen, readFrom_newLine,
        b.readFrom_parts hRight (level + 1) level hEach]
      rfl

end Bracket

theorem values_eq_map
    (level : Nat)
    (items : List Value) :
    values level items = items.map (value level) := by
  induction items with
  | nil => rfl
  | cons v items ih => rw [values, ih, List.map_cons]

/- The text of a field. -/
def member
    (level : Nat)
    (f : String × Value) : List Char :=
  text f.1.toList ++ ':' :: ' ' :: value level f.2

theorem members_eq_map
    (level : Nat)
    (fields : List (String × Value)) :
    members level fields = fields.map (member level) := by
  induction fields with
  | nil => rfl
  | cons f fields ih =>
      rw [members, ih, List.map_cons, member]

theorem documents_eq_map
    (items : List Value) :
    Value.documents items = items.map Value.document := by
  induction items with
  | nil => rfl
  | cons v items ih =>
      rw [Value.documents, ih, List.map_cons]

theorem fieldDocuments_eq_map
    (fields : List (String × Value)) :
    Value.fieldDocuments fields =
      fields.map fun f => (f.1.toList, f.2.document) := by
  induction fields with
  | nil => rfl
  | cons f fields ih =>
      rw [Value.fieldDocuments, ih, List.map_cons]

theorem reads_list
    {level : Nat}
    {items : List Value}
    (hEach : ∀ v ∈ items, Reads (level + 1) v) :
    Reads level (.list items) := by
  intro first stack rest _
  rw [value, values_eq_map, Value.document,
    documents_eq_map]
  apply (Bracket.list stack).readFrom_block rfl rfl rfl
  intro v hMem first done
  exact hEach v hMem first (.list done :: stack)

theorem reads_record
    {level : Nat}
    {fields : List (String × Value)}
    (hEach : ∀ f ∈ fields, Reads (level + 1) f.2) :
    Reads level (.record fields) := by
  have hBlank :
      ∀ place rest, readFrom place (' ' :: rest) =
        readFrom place rest := by
    intro place rest
    have hSkip :
        symbols .between ([' '] ++ rest) =
          symbols .between rest :=
      symbols_blanks (by simp) rest
    rw [readFrom, readFrom, ← hSkip]
    rfl
  intro first stack rest _
  rw [value, members_eq_map, Value.document,
    fieldDocuments_eq_map]
  apply (Bracket.record stack).readFrom_block rfl rfl rfl
  intro f hMem first done rest hBreaks
  rw [member, List.append_assoc,
    readFrom_text f.1.toList rfl, List.cons_append,
    readFrom_mark rfl rfl, List.cons_append, hBlank]
  exact hEach f hMem false _ rest hBreaks

/-
  Every value is read from its own text. The induction is on
  the size of values, since items and fields are in lists.
-/
theorem reads_value
    (v : Value)
    (level : Nat) :
    Reads level v := by
  cases v with
  | null => exact spelledBy_null.reads rfl rfl
  | flag b =>
      cases b with
      | true => exact spelledBy_true.reads rfl rfl
      | false => exact spelledBy_false.reads rfl rfl
  | integer n => exact (spelledBy_integer n).reads rfl rfl
  | real x => exact (spelledBy_real x).reads rfl rfl
  | text s =>
      intro first stack rest _
      exact readFrom_text s.toList rfl rest
  | list items =>
      exact reads_list fun v hMem => reads_value v (level + 1)
  | record fields =>
      exact reads_record fun f hMem =>
        reads_value f.2 (level + 1)
termination_by sizeOf v
decreasing_by
  · have hSize := List.sizeOf_lt_of_mem hMem
    simp only [Value.list.sizeOf_spec]
    omega
  · have hSize := List.sizeOf_lt_of_mem hMem
    cases f
    simp only [Value.record.sizeOf_spec,
      Prod.mk.sizeOf_spec] at hSize ⊢
    omega

end SqlAudit.Json

/- The text of a value is read as this value. -/
theorem SqlAudit.Value.read_json
    (v : Value) :
    Json.read v.json = some v.document := by
  have hReads :=
    Json.reads_value v 0 false [] [] Json.breaks_nil
  rw [List.append_nil] at hReads
  rw [Json.read, json, hReads]
  rfl
