import Mathlib.Data.List.Forall2
import SqlAudit.Console.Line
import SqlAudit.Proofs.Text.Cut

/-
  The text that lines are printed as.

  Each kind of line has a text of its own. Headers, the labels
  of entries and the totals of tiers are painted if there is
  colour. What a rule or a script brings along is printed as
  it is, but for control characters, which are dropped, and
  tabs, which become spaces.

  Key definitions include:
    * `SqlAudit.Console.Cleaned`
    * `SqlAudit.Console.Painted`
    * `SqlAudit.Console.Tier`
    * `SqlAudit.Line.PrintedAs`

  Key theorems include:
    * `SqlAudit.Console.cleaned_clean`
    * `SqlAudit.Line.printedAs_text`
    * `SqlAudit.Line.exists_rows`
-/

------------------------------------------------------------
-- Cleaned Text
------------------------------------------------------------

namespace SqlAudit.Console

/- Characters that are dropped or become spaces. -/
def isAltered (c : Char) : Bool :=
  [7, 8, 9, 11, 12, 13].contains c.toNat

/- All other characters but spaces. -/
def isKept (c : Char) : Bool :=
  !isAltered c && c != ' '

/-
  The text is shown: it keeps its characters in their order,
  spaces and control characters aside, no control character
  is left that would move the cursor, and a text without them
  is shown as it is.
-/
structure Cleaned (s shown : List Char) : Prop where
  kept : shown.filter isKept = s.filter isKept
  clean : ∀ c ∈ shown, isAltered c = false
  same : (∀ c ∈ s, isAltered c = false) → shown = s

theorem isAltered_eq
    (c : Char) :
    isAltered c = (isDropped c || c == '\t') := by
  have hTab : (c == '\t') = (c.toNat == 9) := by
    rw [Bool.eq_iff_iff, beq_iff_eq, beq_iff_eq]
    constructor
    · rintro rfl
      rfl
    · intro hNine
      rw [← Char.ofNat_toNat c, hNine]
  rw [hTab, Bool.eq_iff_iff]
  simp only [isAltered, isDropped, Bool.or_eq_true,
    List.contains_iff_mem, List.mem_cons, List.not_mem_nil,
    or_false, beq_iff_eq]
  omega

/- What is kept is neither dropped nor a tab. -/
theorem filter_isKept_filter
    {p : Char → Bool}
    (hKeeps : ∀ c, isAltered c = false → p c = true)
    (s : List Char) :
    (s.filter p).filter isKept = s.filter isKept := by
  rw [List.filter_filter]
  apply List.filter_congr
  intro c _
  cases hAltered : isAltered c with
  | true => simp [isKept, hAltered]
  | false => simp [hKeeps c hAltered]

theorem filter_expandTabs
    (column : Nat)
    (parts : List (List Char)) :
    (expandTabs column parts).filter isKept =
      parts.flatten.filter isKept := by
  fun_induction expandTabs column parts with
  | case1 => rfl
  | case2 => simp
  | case3 column part parts hMore column' more ih =>
      have hSpaces :
          (List.replicate (1 + more) ' ').filter isKept =
            [] := by
        rw [List.filter_replicate]
        rfl
      rw [List.filter_append, List.filter_append, hSpaces,
        ih, List.flatten_cons, List.filter_append,
        List.append_nil]

theorem mem_expandTabs
    {column : Nat}
    {parts : List (List Char)}
    {c : Char}
    (hMem : c ∈ expandTabs column parts) :
    c = ' ' ∨ c ∈ parts.flatten := by
  fun_induction expandTabs column parts with
  | case1 => cases hMem
  | case2 column part => exact .inr (by simpa using hMem)
  | case3 column part parts hMore column' more ih =>
      simp only [List.mem_append] at hMem
      rcases hMem with (hMem | hMem) | hMem
      · exact .inr (List.mem_append_left _ hMem)
      · exact .inl (List.eq_of_mem_replicate hMem)
      · exact (ih hMem).imp_right
          (List.mem_append_right part)

theorem filter_cleanLine
    (s : List Char) :
    (cleanLine s).filter isKept = s.filter isKept := by
  rw [cleanLine, filter_expandTabs, Text.flatten_cutAt,
    filter_isKept_filter, filter_isKept_filter]
  · intro c hAltered
    rw [isAltered_eq, Bool.or_eq_false_iff] at hAltered
    simp [hAltered.1]
  · intro c hAltered
    rw [isAltered_eq, Bool.or_eq_false_iff] at hAltered
    simpa using hAltered.2

theorem isAltered_of_mem_cleanLine
    {s : List Char}
    {c : Char}
    (hMem : c ∈ cleanLine s) :
    isAltered c = false := by
  rcases mem_expandTabs hMem with rfl | hMem
  · rfl
  · rw [Text.flatten_cutAt, List.mem_filter,
      List.mem_filter] at hMem
    rcases hMem with ⟨⟨_, hDropped⟩, hTab⟩
    rw [isAltered_eq, Bool.or_eq_false_iff]
    exact ⟨by simpa using hDropped, by simpa using hTab⟩

theorem cleanLine_eq_self
    {s : List Char}
    (hPlain : ∀ c ∈ s, isAltered c = false) :
    cleanLine s = s := by
  have hDropped : s.filter (fun c => !isDropped c) = s := by
    rw [List.filter_eq_self]
    intro c hMem
    have hAltered := hPlain c hMem
    rw [isAltered_eq, Bool.or_eq_false_iff] at hAltered
    simp [hAltered.1]
  have hTab : '\t' ∉ s := by
    intro hMem
    exact absurd (hPlain _ hMem) (by decide)
  rw [cleanLine, hDropped, Text.cutAt_of_not_mem hTab]
  rfl

theorem filter_intercalate
    (parts : List (List Char)) :
    (['\n'].intercalate parts).filter isKept =
      ['\n'].intercalate (parts.map (List.filter isKept)) := by
  induction parts with
  | nil => rfl
  | cons part parts ih =>
      cases parts with
      | nil => simp
      | cons next parts =>
          rw [List.intercalate_cons_cons, List.filter_append,
            List.filter_append, ih]
          exact List.intercalate_cons_cons.symm

theorem mem_intercalate
    {parts : List (List Char)}
    {c : Char}
    (hMem : c ∈ ['\n'].intercalate parts) :
    c = '\n' ∨ ∃ part ∈ parts, c ∈ part := by
  induction parts with
  | nil => cases hMem
  | cons part parts ih =>
      cases parts with
      | nil => exact .inr ⟨part, by simpa using hMem⟩
      | cons next parts =>
          rw [List.intercalate_cons_cons, List.mem_append,
            List.mem_append] at hMem
          rcases hMem with (hMem | hMem) | hMem
          · exact .inr ⟨part, List.mem_cons_self, hMem⟩
          · exact .inl (List.mem_singleton.mp hMem)
          · rcases ih hMem with hLine | ⟨other, hOther, hc⟩
            · exact .inl hLine
            · exact .inr
                ⟨other, List.mem_cons_of_mem _ hOther, hc⟩

/- The lines of a text are cleaned one by one. -/
theorem cleaned_clean
    (s : List Char) :
    Cleaned s (clean s) where
  kept := by
    have hLines :
        ((Text.cutAt '\n' s).map cleanLine).map
            (List.filter isKept) =
          (Text.cutAt '\n' s).map (List.filter isKept) := by
      rw [List.map_map]
      exact List.map_congr_left fun line _ =>
        filter_cleanLine line
    rw [clean, filter_intercalate, hLines,
      ← filter_intercalate, Text.intercalate_cutAt]
  clean := by
    intro c hMem
    rcases mem_intercalate hMem with rfl | ⟨line, hLine, hMem⟩
    · rfl
    · rcases List.mem_map.mp hLine with ⟨part, _, rfl⟩
      exact isAltered_of_mem_cleanLine hMem
  same := by
    intro hPlain
    have hLines :
        (Text.cutAt '\n' s).map cleanLine =
          Text.cutAt '\n' s := by
      refine (List.map_congr_left ?_).trans (List.map_id _)
      intro line hLine
      apply cleanLine_eq_self
      intro c hMem
      have hFlat : c ∈ (Text.cutAt '\n' s).flatten :=
        List.mem_flatten.mpr ⟨line, hLine, hMem⟩
      rw [Text.flatten_cutAt] at hFlat
      exact hPlain c (List.mem_filter.mp hFlat).1
    rw [clean, hLines, Text.intercalate_cutAt]

end SqlAudit.Console

------------------------------------------------------------
-- Printed Lines
------------------------------------------------------------

namespace SqlAudit

namespace Console

/- Text between the codes of a style, if there is colour. -/
inductive Painted
    (codes : String)
    (s : List Char) : Bool → List Char → Prop
| plain : Painted codes s false s
| colored :
    Painted codes s true
      ("\x1b[".toList ++ codes.toList ++ "m".toList ++ s ++
        "\x1b[0m".toList)

/-
  How a risk tier is printed: the label of its entries, what
  stands before its total, and the codes of both.
-/
structure Tier where
  risk : Risk
  label : String
  heading : String
  codes : String
  deriving Repr, DecidableEq

/- The three tiers. -/
def tiers : List Tier :=
  [ ⟨.error, "High Risk", ">  High Risk   :: ", "1;31"⟩,
    ⟨.warning, "Medium Risk", ">  Medium Risk :: ", "33"⟩,
    ⟨.info, "Low Risk", ">  Low Risk    :: ", "36"⟩ ]

theorem exists_tier
    (risk : Risk) :
    ∃ t ∈ tiers,
      t.risk = risk ∧ risk.label = t.label ∧
        Line.riskHeading risk = t.heading ∧
        risk.style.code = t.codes := by
  cases risk with
  | error => exact ⟨_, List.mem_cons_self, by decide⟩
  | warning =>
      exact ⟨_, List.mem_cons_of_mem _ List.mem_cons_self,
        by decide⟩
  | info =>
      exact ⟨_, List.mem_cons_of_mem _
        (List.mem_cons_of_mem _ List.mem_cons_self),
        by decide⟩

theorem painted_paint
    (color : Bool)
    (style : Style)
    (s : List Char) :
    Painted style.code s color (style.paint color s) := by
  cases color with
  | false => exact .plain
  | true =>
      have hPaint :
          style.paint true s =
            "\x1b[".toList ++ style.code.toList ++
              "m".toList ++ s ++ "\x1b[0m".toList := by
        simp [Style.paint]
      rw [hPaint]
      exact .colored

end Console

namespace Line

open Console

/- The line is printed as the text. -/
inductive PrintedAs
    (color : Bool) :
    Line → List Char → Prop
| statementHeader
    {number : Int}
    {row : List Char} :
    Painted "1"
      ("==================== Statement ".toList ++
        (toString number).toList ++
        " ====================".toList) color row →
    PrintedAs color (.statementHeader number) row
| statementText
    {text row : List Char} :
    Cleaned text row →
    PrintedAs color (.statementText text) row
| blank : PrintedAs color .blank []
| entry
    {f : Finding}
    {t : Tier}
    {label title : List Char} :
    t ∈ tiers →
    t.risk = f.risk →
    Painted t.codes
      ("(".toList ++ t.label.toList ++ ")".toList) color
      label →
    Cleaned f.title.display title →
    PrintedAs color (.entry f)
      (label ++ " (".toList ++ f.category.title.toList ++
        ") ".toList ++ title)
| explanation
    {text row : List Char} :
    Cleaned text row →
    PrintedAs color (.explanation text) row
| summaryHeader
    {row : List Char} :
    Painted "1"
      "==================== Summary ===================".toList
      color row →
    PrintedAs color .summaryHeader row
| total
    {count : Nat} :
    PrintedAs color (.total count)
      ("All Anti-Patterns and Hints  :: ".toList ++
        (toString count).toList)
| riskTotal
    {t : Tier}
    {count : Nat}
    {row : List Char} :
    t ∈ tiers →
    Painted t.codes
      (t.heading.toList ++ (toString count).toList) color
      row →
    PrintedAs color (.riskTotal t.risk count) row
| saved
    {path row : List Char} :
    Cleaned ("Report saved to: ".toList ++ path) row →
    PrintedAs color (.saved path) row

theorem printedAs_text
    (color : Bool)
    (l : Line) :
    l.PrintedAs color (l.text color) := by
  cases l with
  | statementHeader number =>
      exact .statementHeader (painted_paint color .bold _)
  | statementText text =>
      exact .statementText (cleaned_clean text)
  | blank => exact .blank
  | entry f =>
      rcases exists_tier f.risk with
        ⟨t, hMem, hRisk, hLabel, _, hCodes⟩
      have hPainted := painted_paint color f.risk.style
        ('(' :: f.risk.label.toList ++ [')'])
      rw [hCodes] at hPainted
      refine .entry hMem hRisk ?_
        (cleaned_clean f.title.display)
      rw [← hLabel]
      exact hPainted
  | explanation text =>
      exact .explanation (cleaned_clean text)
  | summaryHeader =>
      exact .summaryHeader (painted_paint color .bold _)
  | total count => exact .total
  | riskTotal risk count =>
      rcases exists_tier risk with
        ⟨t, hMem, rfl, _, hHeading, hCodes⟩
      have hPainted := painted_paint color t.risk.style
        ((riskHeading t.risk).toList ++
          (toString count).toList)
      rw [hCodes] at hPainted
      refine .riskTotal hMem ?_
      rw [← hHeading]
      exact hPainted
  | saved path => exact .saved (cleaned_clean _)

/- Each line is printed in a row of its own. -/
theorem exists_rows
    (color : Bool)
    (lines : List Line) :
    ∃ rows,
      lines.flatMap (render color) =
          rows.flatMap (· ++ ['\n']) ∧
        List.Forall₂ (PrintedAs color) lines rows := by
  refine ⟨lines.map (text color), ?_, ?_⟩
  · rw [List.flatMap_map]
    rfl
  · rw [List.forall₂_map_right_iff, List.forall₂_same]
    intro l _
    exact printedAs_text color l

end Line

end SqlAudit
