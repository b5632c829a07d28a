import Reconciler.Path.Grammar
import Reconciler.Proofs.Success
import Reconciler.Proofs.Timestamp

namespace Reconciler.FieldPath

/-!
# The grammar of field paths

The reader of paths takes a text apart from left to right.  Here the texts are put together
instead: positions in brackets, pieces of a key and positions, and pieces between points.  The
reader accepts the texts that are made in this way, and its steps are those they are made of.

* `Positions`, `Piece`, `Pieces`, `Written` — the grammar, one relation for each layer, between
  a text and the steps that it stands for;
* `readIndex_eq_ok`, `readIndices_eq_ok`, `readPiece_eq_ok`, `parse_eq_ok` — the reader, layer
  by layer;
* `Spelling`, `Spelling.written_spell` — the ways to write a list of steps;
* `parse_grammar` — the reader against the grammar, in both directions.
-/

/-! ### The grammar -/

/-- A key: at least one character, and neither a point nor a bracket among them. -/
def IsKey (k : List Char) : Prop :=
  k ≠ [] ∧ '.' ∉ k ∧ '[' ∉ k ∧ ']' ∉ k

/-- At least one digit, and together the number `i`, which is below `2 ^ 64`. -/
def Denotes (digits : List Char) (i : Nat) : Prop :=
  digits ≠ [] ∧ (∀ c ∈ digits, c.isDigit = true) ∧ Nat.ofDigitChars 10 digits 0 = i ∧
    i < 0x10000000000000000

/-- Positions, each in brackets of its own. -/
inductive Positions : List Char → List Segment → Prop
  | nil : Positions [] []
  | cons {digits cs : List Char} {i : Nat} {steps : List Segment} (hdigits : Denotes digits i)
      (hrest : Positions cs steps) : Positions ('[' :: (digits ++ ']' :: cs)) (.index i :: steps)

/-- A key with positions after it, or positions alone. -/
inductive Piece : List Char → List Segment → Prop
  | keyed {k cs : List Char} {steps : List Segment} (hkey : IsKey k) (hrest : Positions cs steps) :
      Piece (k ++ cs) (.key (String.ofList k) :: steps)
  | bare {cs : List Char} {steps : List Segment} (hne : cs ≠ []) (h : Positions cs steps) :
      Piece cs steps

/-- Pieces, at least one, with a point between them. -/
inductive Pieces : List Char → List Segment → Prop
  | last {cs : List Char} {steps : List Segment} (h : Piece cs steps) : Pieces cs steps
  | more {cs rest : List Char} {steps steps' : List Segment} (h : Piece cs steps)
      (hrest : Pieces rest steps') : Pieces (cs ++ '.' :: rest) (steps ++ steps')

/-- A text of pieces, with a point in front of them or without one. -/
def Written (raw : String) (steps : List Segment) : Prop :=
  ∃ cs, Pieces cs steps ∧ (raw.toList = cs ∨ raw.toList = '.' :: cs)

variable {cs rest k digits : List Char} {steps : List Segment} {i : Nat}

/-! ### Positions -/

/-- A mark that is no digit does not stand among the digits of a number. -/
theorem Denotes.not_mem {mark : Char} (h : Denotes digits i) (hmark : mark.isDigit = false) :
    mark ∉ digits := by
  intro hmem
  rw [h.2.1 mark hmem] at hmark
  cases hmark

/-- Digits are read as the number that they denote. -/
theorem readIndex_eq_ok : readIndex digits = .ok i ↔ Denotes digits i := by
  -- The test of the reader, in terms of the digits.
  have htest : (digits.isEmpty || !digits.all Char.isDigit) = false ↔
      digits ≠ [] ∧ ∀ c ∈ digits, c.isDigit = true := by
    simp
  rw [readIndex, Denotes]
  constructor
  · intro h
    split at h
    · cases h
    · next hdigits =>
      obtain ⟨hne, hall⟩ := htest.mp (Bool.eq_false_iff.mpr hdigits)
      split at h
      · next hsmall =>
        obtain rfl := Except.ok.inj h
        exact ⟨hne, hall, rfl, hsmall⟩
      · cases h
  · rintro ⟨hne, hall, rfl, hsmall⟩
    rw [htest.mpr ⟨hne, hall⟩, if_neg Bool.false_ne_true]
    exact if_pos hsmall

/-- A text is cut at its first closing bracket. -/
theorem cutBracket_eq_some :
    cutBracket cs = some (digits, rest) ↔ cs = digits ++ ']' :: rest ∧ ']' ∉ digits := by
  have hsplit := List.takeWhile_append_dropWhile (p := (· != ']')) (l := cs)
  have hbefore : ']' ∉ cs.takeWhile (· != ']') := by
    intro h
    have := List.mem_takeWhile_imp h
    simp at this
  unfold cutBracket
  constructor
  · intro h
    split at h
    · cases h
    · next c after hafter =>
      obtain ⟨rfl, rfl⟩ := Prod.mk.inj (Option.some.inj h)
      have hc := List.head_dropWhile_not (· != ']') (l := cs) (by simp [hafter])
      simp only [hafter, List.head_cons, bne_eq_false_iff_eq] at hc
      rw [hafter, hc] at hsplit
      exact ⟨hsplit.symm, hbefore⟩
  · rintro ⟨rfl, hnot⟩
    -- There is no closing bracket before this one, so the cut is here.
    have hall : ∀ c ∈ digits, (c != ']') = true := by
      intro c hc
      rw [bne_iff_ne]
      rintro rfl
      exact hnot hc
    rw [List.dropWhile_append_of_pos hall, List.takeWhile_append_of_pos hall]
    simp

/-- A position in brackets is read, and the rest is read after its closing bracket. -/
theorem readIndices_bracket {body : List Char} (h : cutBracket body = some (digits, rest)) :
    readIndices ('[' :: body) = do return .index (← readIndex digits) :: (← readIndices rest) := by
  rw [readIndices]
  split
  · next hnone =>
    rw [h] at hnone
    cases hnone
  · next hsome =>
    rw [h, Option.some.injEq, Prod.mk.injEq] at hsome
    obtain ⟨rfl, rfl⟩ := hsome
    rfl

/-- A text is read as positions iff it is written by their grammar. -/
theorem readIndices_eq_ok : readIndices cs = .ok steps ↔ Positions cs steps := by
  constructor
  · intro h
    -- The reader goes on behind the closing bracket, and with it the induction.
    fun_induction readIndices cs generalizing steps with
    | case1 =>
      obtain rfl := Except.ok.inj h
      exact .nil
    | case2 body hcut => cases h
    | case3 body digits rest hcut hlt ih =>
      obtain ⟨rfl, -⟩ := cutBracket_eq_some.mp hcut
      simp only [bind_eq_ok, pure_eq_ok] at h
      obtain ⟨i, hi, steps, hsteps, rfl⟩ := h
      exact .cons (readIndex_eq_ok.mp hi) (ih hsteps)
    | case4 cs hnil hbracket => cases h
  · intro h
    induction h with
    | nil => rw [readIndices]
    | @cons digits cs i steps hdigits hrest ih =>
      have hcut : cutBracket (digits ++ ']' :: cs) = some (digits, cs) :=
        cutBracket_eq_some.mpr ⟨rfl, hdigits.not_mem rfl⟩
      simp only [readIndices_bracket hcut, bind_eq_ok, pure_eq_ok]
      exact ⟨i, readIndex_eq_ok.mpr hdigits, steps, ih, rfl⟩

/-- Positions begin with a bracket, if there are any. -/
theorem Positions.head (h : Positions cs steps) : cs = [] ∨ ∃ body, cs = '[' :: body := by
  cases h with
  | nil => exact .inl rfl
  | cons => exact .inr ⟨_, rfl⟩

/-- There are no points in positions. -/
theorem Positions.not_mem_point (h : Positions cs steps) : '.' ∉ cs := by
  induction h with
  | nil => exact List.not_mem_nil
  | cons hdigits hrest ih =>
    have hpoint := hdigits.not_mem (show '.'.isDigit = false from rfl)
    simp [hpoint, ih]

/-- Positions can be written on after positions. -/
theorem Positions.append {steps' : List Segment} (h : Positions cs steps)
    (hrest : Positions rest steps') : Positions (cs ++ rest) (steps ++ steps') := by
  induction h with
  | nil => exact hrest
  | cons hdigits _ ih =>
    rw [List.cons_append, List.append_assoc, List.cons_append, List.cons_append]
    exact .cons hdigits ih

/-! ### Pieces -/

theorem Piece.ne_nil (h : Piece cs steps) : cs ≠ [] := by
  cases h with
  | keyed hkey => simp [hkey.1]
  | bare hne => exact hne

/-- There are no points in a piece, so points are between pieces only. -/
theorem Piece.not_mem_point (h : Piece cs steps) : '.' ∉ cs := by
  cases h with
  | keyed hkey hrest => simp [hkey.2.1, hrest.not_mem_point]
  | bare _ h => exact h.not_mem_point

theorem Piece.steps_ne_nil (h : Piece cs steps) : steps ≠ [] := by
  cases h with
  | keyed => exact List.cons_ne_nil _ _
  | bare hne h =>
    cases h with
    | nil => exact absurd rfl hne
    | cons => exact List.cons_ne_nil _ _

/-- A position can be attached to a piece. -/
theorem Piece.append {steps' : List Segment} (h : Piece cs steps) (hrest : Positions rest steps') :
    Piece (cs ++ rest) (steps ++ steps') := by
  cases h with
  | keyed hkey hpositions =>
    rw [List.append_assoc, List.cons_append]
    exact .keyed hkey (hpositions.append hrest)
  | bare hne h => exact .bare (by simp [hne]) (h.append hrest)

/-- The characters up to the first bracket of a piece, and those from there on. -/
theorem span_bracket (hk : '[' ∉ k) (h : Positions cs steps) :
    (k ++ cs).takeWhile (· != '[') = k ∧ (k ++ cs).dropWhile (· != '[') = cs := by
  have hall : ∀ c ∈ k, (c != '[') = true := by
    intro c hc
    rw [bne_iff_ne]
    rintro rfl
    exact hk hc
  rw [List.takeWhile_append_of_pos hall, List.dropWhile_append_of_pos hall]
  rcases h.head with rfl | ⟨body, rfl⟩ <;> simp

/-- A text without points is read as a piece iff it is written by the grammar of pieces. -/
theorem readPiece_eq_ok (hpoint : '.' ∉ cs) : readPiece cs = .ok steps ↔ Piece cs steps := by
  constructor
  · intro h
    have hsplit := List.takeWhile_append_dropWhile (p := (· != '[')) (l := cs)
    have hopen : '[' ∉ cs.takeWhile (· != '[') := by
      intro hmem
      have hne := List.mem_takeWhile_imp hmem
      simp at hne
    have hpoint' : '.' ∉ cs.takeWhile (· != '[') :=
      fun hmem => hpoint ((List.takeWhile_prefix _).subset hmem)
    rw [readPiece] at h
    -- From here on the two parts of the text matter only by the facts above.
    generalize cs.takeWhile (· != '[') = k at h hsplit hopen hpoint'
    generalize cs.dropWhile (· != '[') = rest at h hsplit
    subst hsplit
    split at h
    · cases h
    · next hne =>
      split at h
      · cases h
      · next hclose =>
        simp only [bind_eq_ok, pure_eq_ok, readIndices_eq_ok] at h
        obtain ⟨indices, hrest, rfl⟩ := h
        cases k with
        | nil => exact .bare (by simpa using hne) hrest
        | cons c k =>
          have hkey : IsKey (c :: k) :=
            ⟨List.cons_ne_nil _ _, hpoint', hopen, by simpa using hclose⟩
          exact .keyed hkey hrest
  · intro h
    cases h with
    | keyed hkey hrest =>
      obtain ⟨htake, hdrop⟩ := span_bracket hkey.2.2.1 hrest
      rw [readPiece, htake, hdrop, readIndices_eq_ok.mpr hrest]
      simp [hkey.1, hkey.2.2.2]
    | bare hne h =>
      obtain ⟨htake, hdrop⟩ := span_bracket (k := []) List.not_mem_nil h
      rw [List.nil_append] at htake hdrop
      rw [readPiece, htake, hdrop, readIndices_eq_ok.mpr h]
      simp [hne]

/-! ### Texts -/

/-- A text has no point, or something stands before its first point and something after it. -/
theorem point_induction {motive : List Char → Prop} (single : ∀ cs, '.' ∉ cs → motive cs)
    (split : ∀ cs rest, '.' ∉ cs → motive rest → motive (cs ++ '.' :: rest)) (cs : List Char) :
    motive cs := by
  by_cases h : '.' ∈ cs
  · obtain ⟨before, rest, hcs, hbefore⟩ := List.eq_append_cons_of_mem h
    -- What follows the first point is shorter.
    have hlt : rest.length < cs.length := by
      rw [hcs, List.length_append, List.length_cons]
      omega
    rw [hcs]
    exact split before rest hbefore (point_induction single split rest)
  · exact single cs h
termination_by cs.length

/-- Pieces do not begin with a point, so a point in front of them is told from their own. -/
theorem Pieces.head_ne_point (h : Pieces cs steps) : ∃ c rest, cs = c :: rest ∧ c ≠ '.' := by
  obtain ⟨first, more, hfirst, rfl⟩ : ∃ first more, (∃ s, Piece first s) ∧ cs = first ++ more := by
    cases h with
    | last h => exact ⟨cs, [], ⟨_, h⟩, (List.append_nil _).symm⟩
    | more h => exact ⟨_, _, ⟨_, h⟩, rfl⟩
  obtain ⟨s, hs⟩ := hfirst
  obtain ⟨c, first, rfl⟩ := List.exists_cons_of_ne_nil hs.ne_nil
  exact ⟨c, _, rfl, fun hc => hs.not_mem_point (hc ▸ List.mem_cons_self)⟩

/-- A path has at least one step. -/
theorem Pieces.steps_ne_nil (h : Pieces cs steps) : steps ≠ [] := by
  cases h with
  | last h => exact h.steps_ne_nil
  | more h => simp [h.steps_ne_nil]

/-- The steps of a text are those of the pieces between its points. -/
theorem mapM_readPiece_eq_ok :
    (∃ pieces, (cs.splitOn '.').mapM readPiece = .ok pieces ∧ pieces.flatten = steps) ↔
      Pieces cs steps := by
  constructor
  · -- A text is read by cutting it at its points, and so the induction is on them.
    induction cs using point_induction generalizing steps with
    | single cs hcs =>
      rw [List.splitOn_eq_singleton hcs]
      simp only [List.mapM_cons, List.mapM_nil, bind_eq_ok, pure_eq_ok, exists_eq_left']
      rintro ⟨_, ⟨piece, hpiece, rfl⟩, rfl⟩
      rw [List.flatten_singleton]
      exact .last ((readPiece_eq_ok hcs).mp hpiece)
    | split cs rest hcs ih =>
      rw [List.splitOn_append_cons_self_of_not_mem hcs]
      simp only [List.mapM_cons, bind_eq_ok, pure_eq_ok]
      rintro ⟨_, ⟨piece, hpiece, pieces, hpieces, rfl⟩, rfl⟩
      rw [List.flatten_cons]
      exact .more ((readPiece_eq_ok hcs).mp hpiece) (ih ⟨pieces, hpieces, rfl⟩)
  · intro h
    -- The other way round it is on the grammar.
    induction h with
    | @last cs steps h =>
      have hread := (readPiece_eq_ok h.not_mem_point).mpr h
      rw [List.splitOn_eq_singleton h.not_mem_point]
      simp only [List.mapM_cons, List.mapM_nil, bind_eq_ok, pure_eq_ok, exists_eq_left']
      exact ⟨[steps], ⟨steps, hread, rfl⟩, List.flatten_singleton⟩
    | @more cs rest steps steps' h hrest ih =>
      obtain ⟨pieces, hpieces, rfl⟩ := ih
      have hread := (readPiece_eq_ok h.not_mem_point).mpr h
      rw [List.splitOn_append_cons_self_of_not_mem h.not_mem_point]
      simp only [List.mapM_cons, bind_eq_ok, pure_eq_ok]
      exact ⟨steps :: pieces, ⟨steps, hread, pieces, hpieces, rfl⟩, List.flatten_cons⟩

/-- At most one point is dropped, and no piece begins with one. -/
theorem written_iff {raw : String} : Written raw steps ↔ Pieces (dropPoint raw.toList) steps := by
  constructor
  · rintro ⟨cs, hpieces, hraw | hraw⟩
    · -- No point is dropped here, since pieces do not begin with one.
      obtain ⟨c, rest, rfl, hc⟩ := hpieces.head_ne_point
      rw [hraw, dropPoint]
      · exact hpieces
      · rintro rest' h
        exact hc (List.cons.inj h).1
    · rw [hraw]
      exact hpieces
  · intro h
    refine ⟨_, h, ?_⟩
    unfold dropPoint
    split
    · next rest hraw => exact .inr hraw
    · exact .inl rfl

/-- A path is what the steps of its text are, and it keeps the text. -/
theorem parse_eq_ok {raw : String} {p : FieldPath} :
    parse raw = .ok p ↔ p.raw = raw ∧ Written raw p.segments := by
  rw [written_iff, parse]
  constructor
  · -- The reader refuses an empty text, and a text whose pieces do not read.
    intro h
    split at h
    · cases h
    · split at h
      · cases h
      · next pieces hpieces =>
        split at h
        · next head rest hsteps =>
          obtain rfl := Except.ok.inj h
          exact ⟨rfl, mapM_readPiece_eq_ok.mp ⟨pieces, hpieces, hsteps⟩⟩
        · cases h
  · rintro ⟨rfl, h⟩
    -- No path is written as an empty text.
    obtain ⟨c, cs, hcs, -⟩ := h.head_ne_point
    obtain ⟨pieces, hpieces, hsteps⟩ := mapM_readPiece_eq_ok.mpr h
    rw [hpieces, hcs]
    simp only [List.isEmpty_cons, Bool.false_eq_true, if_false, hsteps, segments]

/-- There is a path for every text of the grammar: its steps are at least one. -/
theorem exists_parse_eq_ok {raw : String} (h : Written raw steps) :
    ∃ p, parse raw = .ok p ∧ p.segments = steps := by
  obtain ⟨head, rest, rfl⟩ := List.exists_cons_of_ne_nil (written_iff.mp h).steps_ne_nil
  exact ⟨⟨raw, head, rest⟩, parse_eq_ok.mpr ⟨rfl, h⟩, rfl⟩

/-! ### Ways to write a path -/

/-- A step as it is written: a key, a position in a piece of its own, or one that is attached
    to the piece before it, with zeros in front of its digits. -/
inductive Spelling where
  | key (k : String)
  | dotted (zeros i : Nat)
  | attached (zeros i : Nat)

namespace Spelling

/-- The step that is written. -/
def step : Spelling → Segment
  | key k => .key k
  | dotted _ i | attached _ i => .index i

/-- A key has no points and no brackets, and a position is below `2 ^ 64`. -/
def Writable : Spelling → Prop
  | key k => IsKey k.toList
  | dotted _ i | attached _ i => i < 0x10000000000000000

/-- The text of the step alone. -/
def text : Spelling → List Char
  | key k => k.toList
  | dotted zeros i | attached zeros i =>
    '[' :: (List.replicate zeros '0' ++ Nat.toDigits 10 i ++ [']'])

/-- The text of the step after another one. -/
def textAfter : Spelling → List Char
  | s@(key _) | s@(dotted _ _) => '.' :: s.text
  | s@(attached _ _) => s.text

/-- The text of a list of steps, with a point in front of it or without one. -/
def spell (point : Bool) (first : Spelling) (rest : List Spelling) : String :=
  String.ofList ((if point then ['.'] else []) ++ first.text ++ rest.flatMap textAfter)

/-- The decimal digits of a number denote it, with any number of zeros in front of them. -/
theorem denotes_padded (zeros : Nat) (h : i < 0x10000000000000000) :
    Denotes (List.replicate zeros '0' ++ Nat.toDigits 10 i) i := by
  refine ⟨by simp [Nat.toDigits_ne_nil], fun c hc => ?_, ?_, h⟩
  · rcases List.mem_append.mp hc with hzero | hdigit
    · obtain rfl := List.eq_of_mem_replicate hzero
      rfl
    · exact Nat.isDigit_of_mem_toDigits (by decide) (by decide) hdigit
  · rw [Nat.ofDigitChars_append, Timestamp.ofDigitChars_replicate_zero,
      Nat.ofDigitChars_ten_toDigits]

/-- A number in brackets is one position. -/
theorem positions_bracketed (zeros : Nat) (h : i < 0x10000000000000000) :
    Positions ('[' :: (List.replicate zeros '0' ++ Nat.toDigits 10 i ++ [']'])) [.index i] :=
  .cons (denotes_padded zeros h) .nil

/-- A step is a piece by itself. -/
theorem piece_text {s : Spelling} (h : s.Writable) : Piece s.text [s.step] := by
  cases s with
  | key k =>
    have hpiece := Piece.keyed h .nil
    rwa [List.append_nil, String.ofList_toList] at hpiece
  | dotted zeros i => exact .bare (List.cons_ne_nil _ _) (positions_bracketed zeros h)
  | attached zeros i => exact .bare (List.cons_ne_nil _ _) (positions_bracketed zeros h)

/-- Steps are written on after a piece: an attached one makes the piece longer, and any other
    one begins the next. -/
theorem pieces_append {rest : List Spelling} (h : Piece cs steps)
    (hrest : ∀ s ∈ rest, s.Writable) :
    Pieces (cs ++ rest.flatMap textAfter) (steps ++ rest.map step) := by
  induction rest generalizing cs steps with
  | nil =>
    rw [List.flatMap_nil, List.map_nil, List.append_nil, List.append_nil]
    exact .last h
  | cons s rest ih =>
    obtain ⟨hs, hothers⟩ := List.forall_mem_cons.mp hrest
    rw [List.flatMap_cons, List.map_cons]
    -- The piece so far is the one that an attached position belongs to.
    cases s with
    | key k => exact .more h (ih (piece_text hs) hothers)
    | dotted zeros i => exact .more h (ih (piece_text hs) hothers)
    | attached zeros i =>
      rw [← List.append_assoc, List.append_cons]
      exact ih (h.append (positions_bracketed zeros hs)) hothers

/-- Every spelling of steps is in the grammar, and it is the grammar of these steps. -/
theorem written_spell {first : Spelling} {rest : List Spelling} (point : Bool)
    (h : ∀ s ∈ first :: rest, s.Writable) :
    Written (spell point first rest) ((first :: rest).map step) := by
  obtain ⟨hfirst, hrest⟩ := List.forall_mem_cons.mp h
  refine ⟨_, pieces_append (piece_text hfirst) hrest, ?_⟩
  rw [spell, String.toList_ofList]
  cases point
  · exact .inl rfl
  · exact .inr rfl

end Spelling

/-- A text reads as a path exactly when the grammar has it, and its steps, of which there is
    at least one, are those that the grammar gives it.  In the other direction, every list of
    steps that can be written is read from each of its spellings: positions may be attached or
    stand alone, with any number of zeros, and a point may stand in front of it all. -/
theorem parse_grammar :
    (∀ raw, (∃ p, parse raw = .ok p) ↔ ∃ steps, Written raw steps) ∧
    (∀ raw p, parse raw = .ok p ↔ p.raw = raw ∧ p.segments ≠ [] ∧ Written raw p.segments) ∧
    ∀ (point : Bool) (first : Spelling) (rest : List Spelling),
      (∀ s ∈ first :: rest, s.Writable) →
        ∃ p, parse (Spelling.spell point first rest) = .ok p ∧
          p.segments = (first :: rest).map Spelling.step := by
  refine ⟨fun raw => ⟨?_, ?_⟩, fun raw p => ?_, fun point first rest h => ?_⟩
  · rintro ⟨p, hp⟩
    exact ⟨p.segments, (parse_eq_ok.mp hp).2⟩
  · rintro ⟨steps, hsteps⟩
    obtain ⟨p, hp, -⟩ := exists_parse_eq_ok hsteps
    exact ⟨p, hp⟩
  · rw [parse_eq_ok]
    have hne : p.segments ≠ [] := List.cons_ne_nil _ _
    simp [hne]
  · exact exists_parse_eq_ok (Spelling.written_spell point h)

/-- Two positions of a key, one attached with a zero in front and one in a piece of its own,
    and a key after them, behind a point. -/
theorem parse_grammar_twoPositions :
    (∀ s ∈ [Spelling.key "ports", .attached 1 7, .dotted 0 0, .key "name"], s.Writable) ∧
      Spelling.spell true (.key "ports") [.attached 1 7, .dotted 0 0, .key "name"] =
        ".ports[07].[0].name" ∧
      ∃ p, parse ".ports[07].[0].name" = .ok p ∧
        p.segments = [.key "ports", .index 7, .index 0, .key "name"] := by
  have hwritable : ∀ s ∈ [Spelling.key "ports", .attached 1 7, .dotted 0 0, .key "name"],
      s.Writable := by
    simp [Spelling.Writable, IsKey]
  have htext : Spelling.spell true (.key "ports") [.attached 1 7, .dotted 0 0, .key "name"] =
      ".ports[07].[0].name" := by decide +kernel
  obtain ⟨p, hp, hsegments⟩ := parse_grammar.2.2 true _ _ hwritable
  rw [htext] at hp
  exact ⟨hwritable, htext, p, hp, hsegments⟩

end Reconciler.FieldPath
