import HeaderFacts.Pattern.NamePattern
import HeaderFacts.Proofs.Matching
import HeaderFacts.Proofs.SteadyReading

/-!
# Names that a pattern covers

A name pattern selects the names of which it matches all, and it does so by the anchors that are
written around its text. Here the two are compared: the text between anchors, looked for anywhere
in a name, and the pattern by itself, with a match from the first to the last character.

That holds for every engine that keeps to what is documented of regular expressions: a match is
looked for anywhere in a text, an assertion in front of a group pins down where a match starts, and a
group matches what its inside does. Nothing else is asked of an engine, not even what the texts are
that it takes. The engine of this library keeps to it. Its reading of the anchored text goes through
the pattern in the way it is read alone (`readAlternatives_carries`), so that a pattern that is a
regular expression by itself ends up as one expression between the assertions, whatever
alternatives, groups and flags it has. Marks then do what the matches of that expression say
(`occursIn_iff`).

The pattern has to be a regular expression by itself, and the anchored text is no test of that:
`a)|(b` is none, but between the anchors each of its parentheses has a partner. Its first
alternative is anchored at the start only.

Main definitions:

* `RegexEngine.Documented` — an engine whose matches are as documented.
* `RegexEngine.Covers` — a pattern, by itself, matches a name from end to end.

Main results:

* `NamePattern.isMatch_iff_covered` — a pattern selects the names that it covers.
* `Pattern.engine_documented` — the engine of this library is as documented.
* `NamePattern.exists_isMatch_not_covered` — a pattern that selects a name of which it matches a part.
-/

namespace HeaderFacts

open Pattern (TextEdge closing)

/-! ## What is documented -/

/-- Whether the assertion of an end holds in a gap of a text; gap `i` has `i` characters before it. -/
def Pattern.TextEdge.IsAt (text : List Char) : TextEdge → Nat → Prop
  | first, i => i = 0
  | last, i => i = text.length

/-- A pattern in a group that captures nothing, with assertions before and after the group. -/
def enclosed (before : List TextEdge) (source : List Char) (after : List TextEdge) : List Char :=
  before.map TextEdge.sign ++ (['(', '?', ':'] ++ (source ++ closing after))

theorem anchored_eq_enclosed (source : String) :
    anchored source = enclosed [.first] source.toList [.last] := by
  simp [anchored, enclosed, closing, TextEdge.sign]

/-- An engine whose matches are as documented. `Spans` says between which gaps of a text an
expression has a match. -/
structure RegexEngine.Documented (engine : RegexEngine)
    (Spans : engine.Regex → List Char → Nat → Nat → Prop) : Prop where
  /-- A match is looked for anywhere in the text. -/
  occursIn_iff : ∀ r text, engine.occursIn r text = true ↔ ∃ i j, i ≤ text.length ∧ Spans r text i j
  /-- `^x` and `$x` match like `x` where the assertion holds. Only a group is taken for `x`, with
  assertions around it, since alternatives or a repetition would not be a part of their own. -/
  assertion : ∀ {edge before source after r w}, engine.compile? source = some r →
    engine.compile? (enclosed (edge :: before) source after) = some w →
    ∃ v, engine.compile? (enclosed before source after) = some v ∧
      ∀ text i j, i ≤ text.length → (Spans w text i j ↔ edge.IsAt text i ∧ Spans v text i j)
  /-- `(?:x)` matches like `x`, and the assertions after it hold where the match ends. -/
  group : ∀ {source after r w}, engine.compile? source = some r →
    engine.compile? (enclosed [] source after) = some w →
    ∀ text i j, i ≤ text.length →
      (Spans w text i j ↔ Spans r text i j ∧ ∀ edge ∈ after, edge.IsAt text j)

/-- A pattern is a regular expression by itself and has a match that covers a name. -/
def RegexEngine.Covers (engine : RegexEngine)
    (Spans : engine.Regex → List Char → Nat → Nat → Prop) (source name : String) : Prop :=
  ∃ r, engine.compile? source.toList = some r ∧ Spans r name.toList 0 name.toList.length

/-! ## The engine of this library -/

namespace Pattern

/-- The assertion of an end. -/
def TextEdge.look : TextEdge → Look
  | first => .textStart
  | last => .textEnd

/-- The element that the assertion of an end is read as. -/
def TextEdge.item (edge : TextEdge) : Item := .leaf (.look edge.look)

/-- What a pattern in a group between assertions is read as. -/
def enclosedItems (before : List TextEdge) (p : Piece) (after : List TextEdge) : List Item :=
  before.map TextEdge.item ++ .piece ⟨p.expr, 1 + p.depth⟩ :: after.map TextEdge.item

/-- An assertion matches nothing, in the gaps where it holds. -/
theorem spans_look_iff {text : List Char} {edge : TextEdge} {i j : Nat} (hi : i ≤ text.length) :
    (Expr.look edge.look).Spans text i j ↔ i = j ∧ edge.IsAt text i := by
  have hEnd : text[i]? = none ↔ i = text.length := by
    rw [List.getElem?_eq_none_iff]
    omega
  cases edge with
  | first =>
    cases i with
    | zero => simp [Expr.Spans, TextEdge.look, TextEdge.IsAt, Look.holds, charBefore]
    | succ i =>
      have hSome : text[i]? ≠ none := by
        rw [Ne, List.getElem?_eq_none_iff]
        omega
      simp [Expr.Spans, TextEdge.look, TextEdge.IsAt, Look.holds, charBefore, hSome]
  | last => simp [Expr.Spans, TextEdge.look, TextEdge.IsAt, Look.holds, hEnd]

/-! ### Sequences -/

/-- An assertion in front of a sequence. -/
theorem spans_sequence_cons {text : List Char} {edge : TextEdge} {items : List Item} {i j : Nat}
    (hItems : items ≠ []) (hi : i ≤ text.length) :
    (Piece.sequence (edge.item :: items)).expr.Spans text i j ↔
      edge.IsAt text i ∧ (Piece.sequence items).expr.Spans text i j := by
  have hFront (e : Expr) : (Expr.seq (.look edge.look) e).Spans text i j ↔
      edge.IsAt text i ∧ e.Spans text i j := by
    show (∃ k, (Expr.look edge.look).Spans text i k ∧ e.Spans text k j) ↔ _
    simp only [spans_look_iff hi]
    constructor
    · rintro ⟨_, ⟨rfl, hEdge⟩, he⟩
      exact ⟨hEdge, he⟩
    · rintro ⟨hEdge, he⟩
      exact ⟨i, ⟨rfl, hEdge⟩, he⟩
  match items, hItems with
  | [item], _ =>
    refine (hFront _).trans (and_congr_right fun _ => ?_)
    show (∃ k, item.toPiece.expr.Spans text i k ∧ k = j) ↔ _
    simp [Piece.sequence]
  | a :: b :: rest, _ => exact hFront _

/-- Assertions one after the other. -/
def looks (edges : List TextEdge) : Expr :=
  (edges.map fun edge => Expr.look edge.look).foldr Expr.seq Expr.empty

theorem spans_looks_iff {text : List Char} {edges : List TextEdge} {i j : Nat}
    (hi : i ≤ text.length) :
    (looks edges).Spans text i j ↔ i = j ∧ ∀ edge ∈ edges, edge.IsAt text i := by
  induction edges with
  | nil => simp [looks, Expr.Spans]
  | cons edge edges ih =>
    show (∃ k, (Expr.look edge.look).Spans text i k ∧ (looks edges).Spans text k j) ↔ _
    simp only [spans_look_iff hi, List.forall_mem_cons]
    constructor
    · rintro ⟨_, ⟨rfl, hEdge⟩, hRest⟩
      obtain ⟨hij, hEdges⟩ := ih.1 hRest
      exact ⟨hij, hEdge, hEdges⟩
    · rintro ⟨hij, hEdge, hEdges⟩
      exact ⟨i, ⟨rfl, hEdge⟩, ih.2 ⟨hij, hEdges⟩⟩

/-- Assertions after a group. -/
theorem spans_enclosedItems {text : List Char} {p : Piece} {after : List TextEdge} {i j : Nat}
    (hi : i ≤ text.length) :
    (Piece.sequence (enclosedItems [] p after)).expr.Spans text i j ↔
      p.expr.Spans text i j ∧ ∀ edge ∈ after, edge.IsAt text j := by
  cases after with
  | nil => simp [enclosedItems, Piece.sequence, Item.toPiece]
  | cons edge after =>
    have hExpr : (Piece.sequence (enclosedItems [] p (edge :: after))).expr =
        .seq p.expr (looks (edge :: after)) := by
      simp [enclosedItems, Piece.sequence, looks, TextEdge.item, Item.leaf, Item.toPiece,
        Function.comp_def]
    rw [hExpr]
    show (∃ k, p.expr.Spans text i k ∧ (looks (edge :: after)).Spans text k j) ↔ _
    constructor
    · rintro ⟨k, hp, hLooks⟩
      obtain ⟨rfl, hEdges⟩ := (spans_looks_iff (hp.le_length hi)).1 hLooks
      exact ⟨hp, hEdges⟩
    · rintro ⟨hp, hEdges⟩
      exact ⟨j, hp, (spans_looks_iff (hp.le_length hi)).2 ⟨rfl, hEdges⟩⟩

/-- Without the assertion in front, a sequence is nested no deeper and takes no more room. -/
theorem sequence_cons_bounds {edge : TextEdge} {items : List Item} (hItems : items ≠ []) :
    (Piece.sequence items).depth ≤ (Piece.sequence (edge.item :: items)).depth ∧
      (Piece.sequence items).expr.cost ≤ (Piece.sequence (edge.item :: items)).expr.cost := by
  match items, hItems with
  | [item], _ =>
    constructor
    · simp [Piece.sequence, TextEdge.item, Item.leaf, Item.toPiece]
    · simp only [Piece.sequence, List.map_cons, List.foldr_cons, Expr.cost]
      omega
  | a :: b :: rest, _ =>
    constructor
    · simp [Piece.sequence, TextEdge.item, Item.leaf, Item.toPiece]
    · simp only [Piece.sequence, List.map_cons, List.foldr_cons, Expr.cost]
      omega

/-! ### Reading -/

/-- Assertions are read one by one. -/
theorem readAlternatives_signs (n : Nat) (names : List (List Char)) (items : List Item)
    (edges : List TextEdge) (cs : List Char) :
    readAlternatives (n + edges.length) {} names [] items (edges.map TextEdge.sign ++ cs) =
      readAlternatives n {} names [] ((edges.map TextEdge.item).reverse ++ items) cs := by
  induction edges generalizing items with
  | nil => rfl
  | cons edge edges ih =>
    have hStep : readAlternatives (n + edges.length + 1) {} names [] items
        (edge.sign :: (edges.map TextEdge.sign ++ cs)) =
          readAlternatives (n + edges.length) {} names [] (edge.item :: items)
            (edges.map TextEdge.sign ++ cs) := by
      cases edge <;> rfl
    rw [List.length_cons, ← Nat.add_assoc, List.map_cons, List.cons_append, hStep, ih]
    simp

/-- After the opening of a group, its inside is read. -/
theorem readAlternatives_opening (n : Nat) (items : List Item) (cs : List Char) :
    readAlternatives (n + 1) {} [] [] items (['(', '?', ':'] ++ cs) =
      (readAlternatives n {} [] [] [] cs).bind fun (inside, names, rest) =>
        match rest with
        | ')' :: rest =>
          readAlternatives n {} names [] (.piece ⟨inside.expr, 1 + inside.depth⟩ :: items) rest
        | _ => none := rfl

/-- What the reading of a whole pattern comes to. -/
theorem parse?_eq_some_iff {cs : List Char} {e : Expr} :
    parse? cs = some e ↔
      ∃ depth names,
        readAlternatives (cs.length + 1) {} [] [] [] cs = some (⟨e, depth⟩, names, []) ∧
          depth ≤ maxDepth ∧ e.cost ≤ maxCost := by
  unfold parse?
  constructor
  · intro h
    split at h
    · next p names hread =>
      split_ifs at h with hBounds
      cases h
      exact ⟨p.depth, names, hread, hBounds⟩
    · cases h
  · rintro ⟨depth, names, hread, hBounds⟩
    rw [hread]
    exact if_pos hBounds

/-- A pattern in a group between assertions, read as a whole, is the sequence of these, unless the
pattern ends in a comment that runs over the end of the group. -/
theorem readAlternatives_enclosed {source : List Char} {p : Piece} {names : List (List Char)}
    (h : readAlternatives (source.length + 1) {} [] [] [] source = some (p, names, []))
    (after : List TextEdge) :
    (∀ before, let cs := enclosed before source after
      readAlternatives (cs.length + 1) {} [] [] [] cs =
        some (Piece.sequence (enclosedItems before p after), names, [])) ∨
      ∀ before, parse? (enclosed before source after) = none := by
  let fuel := source.length + 4 + after.length
  have hFuel (before : List TextEdge) :
      (enclosed before source after).length + 1 = fuel + 1 + before.length := by
    simp only [enclosed, closing, List.length_append, List.length_map, List.length_cons,
      List.length_nil, fuel]
    omega
  have hGroup (before : List TextEdge) :
      readAlternatives ((enclosed before source after).length + 1) {} [] [] []
          (enclosed before source after) =
        readAlternatives (fuel + 1) {} [] [] ((before.map TextEdge.item).reverse ++ [])
          (['(', '?', ':'] ++ (source ++ closing after)) := by
    rw [hFuel, enclosed, readAlternatives_signs]
  have hClose : Continues after source (source ++ closing after) := .close source
  obtain ⟨_, hInside, _, _, hRest⟩ := readAlternatives_carries
    (show source.length + 1 ≤ fuel by omega) {} [] [] [] hClose _ h
  rcases hRest.of_nil with rfl | rfl
  · -- the comment has taken the parenthesis
    refine .inr fun before => ?_
    rw [Option.eq_none_iff_forall_ne_some]
    intro e he
    obtain ⟨_, _, hRead, -⟩ := parse?_eq_some_iff.1 he
    rw [hGroup, readAlternatives_opening, hInside] at hRead
    cases hRead
  · refine .inl fun before => ?_
    intro cs
    have hAfter := readAlternatives_signs (source.length + 4) names
      (.piece ⟨p.expr, 1 + p.depth⟩ :: (before.map TextEdge.item).reverse) after []
    rw [List.append_nil] at hAfter
    have hEnd (items : List Item) : readAlternatives (source.length + 4) {} names [] items [] =
        some (Piece.sequence items.reverse, names, []) := rfl
    rw [hGroup, readAlternatives_opening, hInside, List.append_nil]
    refine hAfter.trans ?_
    rw [hEnd, enclosedItems]
    simp

/-- The engine of this library is as documented. -/
theorem engine_documented : engine.Documented fun e text => e.Spans text where
  occursIn_iff _ _ := occursIn_iff
  assertion {edge before source after e w} he hw := by
    obtain ⟨inner, _, hAlone, -⟩ := parse?_eq_some_iff.1 he
    rcases readAlternatives_enclosed hAlone after with hRead | hNone
    · obtain ⟨depth, _, hWhole, hDepth, hCost⟩ := parse?_eq_some_iff.1 hw
      have hItems (p : Piece) : enclosedItems before p after ≠ [] := by simp [enclosedItems]
      have hPiece := (Prod.mk.inj (Option.some.inj ((hRead (edge :: before)).symm.trans hWhole))).1
      rw [enclosedItems, List.map_cons, List.cons_append, ← enclosedItems] at hPiece
      obtain ⟨hDepthLe, hCostLe⟩ := @sequence_cons_bounds edge _ (hItems ⟨e, inner⟩)
      rw [hPiece] at hDepthLe hCostLe
      refine ⟨_, parse?_eq_some_iff.2 ⟨_, _, hRead before,
        Nat.le_trans hDepthLe hDepth, Nat.le_trans hCostLe hCost⟩, fun text i j hi => ?_⟩
      have hFront : (Piece.sequence (edge.item :: _)).expr.Spans text i j ↔ _ :=
        spans_sequence_cons (hItems ⟨e, inner⟩) hi
      rwa [hPiece] at hFront
    · cases (hNone (edge :: before)).symm.trans hw
  group {source after e w} he hw := by
    obtain ⟨inner, _, hAlone, -⟩ := parse?_eq_some_iff.1 he
    rcases readAlternatives_enclosed hAlone after with hRead | hNone
    · obtain ⟨depth, _, hWhole, -⟩ := parse?_eq_some_iff.1 hw
      have hPiece := (Prod.mk.inj (Option.some.inj ((hRead []).symm.trans hWhole))).1
      intro text i j hi
      have hGroup : (Piece.sequence (enclosedItems [] ⟨e, inner⟩ after)).expr.Spans text i j ↔ _ :=
        spans_enclosedItems hi
      rwa [hPiece] at hGroup
    · cases (hNone []).symm.trans hw

end Pattern

namespace NamePattern

/-- With an engine whose matches are as documented, a pattern that is a regular expression by itself
selects exactly the names that it covers. -/
theorem isMatch_iff_covered {engine : RegexEngine}
    {Spans : engine.Regex → List Char → Nat → Nat → Prop} (hEngine : engine.Documented Spans)
    (p : NamePattern engine) (name : String)
    (hAlone : (engine.compile? p.source.toList).isSome = true) :
    p.isMatch name = true ↔ engine.Covers Spans p.source name := by
  obtain ⟨r, hr⟩ := Option.isSome_iff_exists.1 hAlone
  have hWhole := anchored_eq_enclosed p.source ▸ p.compiled
  obtain ⟨v, hv, hStart⟩ := hEngine.assertion hr hWhole
  have hEnd := hEngine.group hr hv
  have hSpans (i j : Nat) (hi : i ≤ name.toList.length) : Spans p.regex name.toList i j ↔
      i = 0 ∧ j = name.toList.length ∧ Spans r name.toList i j := by
    rw [hStart _ i j hi, hEnd _ i j hi, List.forall_mem_singleton]
    exact and_congr_right fun _ => and_comm
  unfold isMatch
  rw [hEngine.occursIn_iff]
  constructor
  · rintro ⟨i, j, hi, hij⟩
    obtain ⟨rfl, rfl, hr'⟩ := (hSpans i j hi).1 hij
    exact ⟨r, hr, hr'⟩
  · rintro ⟨r', hr', hCovers⟩
    cases hr.symm.trans hr'
    exact ⟨0, _, Nat.zero_le _, (hSpans _ _ (Nat.zero_le _)).2 ⟨rfl, rfl, hCovers⟩⟩

/-- The pattern of a text that is one. -/
def ofParsed (source : String) (h : (Pattern.parse? (anchored source)).isSome = true) :
    NamePattern :=
  ⟨source, (Pattern.parse? (anchored source)).get h, (Option.some_get h).symm⟩

/-- The anchors hold for both alternatives, and the flag for the second one. -/
theorem isMatch_iff_covered_alternatives :
    ∃ p : NamePattern, p.source = "ab|(?i:c).*" ∧
      (Pattern.engine.compile? p.source.toList).isSome = true ∧
      Pattern.engine.Covers (fun e text => e.Spans text) p.source "Cab" ∧
      ¬ Pattern.engine.Covers (fun e text => e.Spans text) p.source "abC" := by
  let p := ofParsed "ab|(?i:c).*" (by decide)
  have hAlone : (Pattern.engine.compile? p.source.toList).isSome = true := by decide
  have hAll : p.isMatch "Cab" = true := by decide
  have hPart : ¬ p.isMatch "abC" = true := by decide
  have hIff (name : String) := isMatch_iff_covered Pattern.engine_documented p name hAlone
  exact ⟨p, rfl, hAlone, (hIff "Cab").1 hAll, fun h => hPart ((hIff "abC").2 h)⟩

/-- A pattern that closes the group around it selects a name that only begins like it. -/
theorem exists_isMatch_not_covered :
    ∃ p : NamePattern, p.source = "a)|(b" ∧ p.isMatch "ax" = true ∧
      ¬ Pattern.engine.Covers (fun e text => e.Spans text) p.source "ax" := by
  refine ⟨ofParsed "a)|(b" (by decide), rfl, by decide, ?_⟩
  rintro ⟨e, hCompiled, -⟩
  have hNone : Pattern.parse? "a)|(b".toList = none := by decide
  cases hNone.symm.trans hCompiled

end NamePattern

end HeaderFacts
