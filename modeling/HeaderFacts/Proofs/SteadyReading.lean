import HeaderFacts.Pattern.Reader
import Mathlib.Tactic.SplitIfs

/-!
# Reading a pattern with something after it

A pattern in a group between assertions is read as one text: what stands before the pattern, the
pattern, and then a parenthesis and the assertions after it. Reading goes from left to right and
looks ahead by a character or two, and this module says that it does not notice the difference
before the pattern is over: whatever the readers come to on a text by itself, they come to on the
text with the closing after it, and the closing is still there at the end of what they leave.

That is not quite a statement about `++`. A verbose pattern may end in a comment, which runs over
the closing as well; so a text also continues itself. And it goes in one direction only: `a\` is no
pattern, and `a\)$` is one.

Every reader has one lemma, which says that it *carries* its results over. The readers are put
together by `bind` and `map`, and so are the lemmas. Where a reader looks at a character, either
both texts have it or the first one is at its end, and at its end most readers fail.

Main definitions:

* `TextEdge` — an end of a text, which an assertion of one character pins down.
* `Continues` — a text, and the same text with the closing after it.
* `Carries` — what one reading comes to, another comes to as well.
* `Leaves`, `Leaves₂` — results that differ in the text that is left.

Main result:

* `readAlternatives_carries` — a pattern is read in the same way with the closing after it.
-/

namespace HeaderFacts.Pattern

/-! ## Texts that go on -/

/-- An end of a text. There is an assertion of one character for each. -/
inductive TextEdge where
  | first
  | last
  deriving DecidableEq, Repr

/-- How the assertion of an end is written. -/
def TextEdge.sign : TextEdge → Char
  | first => '^'
  | last => '$'

/-- What stands after a pattern in a group: the end of the group and some assertions. -/
def closing (after : List TextEdge) : List Char := ')' :: after.map TextEdge.sign

/-- A comment that reaches the closing runs over all of it. -/
theorem skipVerbose_closing (after : List TextEdge) :
    Flags.skipVerbose true (closing after) = [] := by
  induction after with
  | nil => rfl
  | cons edge after ih => cases edge <;> exact ih

/-- There is no colon in the closing. -/
theorem dropWhile_closing (after : List TextEdge) : (closing after).dropWhile (· != ':') = [] := by
  induction after with
  | nil => rfl
  | cons edge after ih => cases edge <;> exact ih

/-- The second text is the first, or the first and then the closing. -/
def Continues (after : List TextEdge) (cs cs' : List Char) : Prop :=
  cs' = cs ∨ cs' = cs ++ closing after

variable {after : List TextEdge}

namespace Continues

variable {cs cs' : List Char}

theorem refl (cs : List Char) : Continues after cs cs := .inl rfl

theorem close (cs : List Char) : Continues after cs (cs ++ closing after) := .inr rfl

theorem cons (c : Char) (h : Continues after cs cs') : Continues after (c :: cs) (c :: cs') := by
  rcases h with rfl | rfl
  · exact .refl _
  · exact .close _

theorem length_le (h : Continues after cs cs') : cs.length ≤ cs'.length := by
  rcases h with rfl | rfl <;> simp

theorem of_nil (h : Continues after [] cs') : cs' = [] ∨ cs' = closing after := h

theorem of_cons {c : Char} (h : Continues after (c :: cs) cs') :
    ∃ rest, cs' = c :: rest ∧ Continues after cs rest := by
  rcases h with rfl | rfl
  · exact ⟨cs, rfl, .refl cs⟩
  · exact ⟨cs ++ closing after, rfl, .close cs⟩

/-- What verbose mode passes over ends before the closing, or is a comment that takes it along. -/
theorem skipVerbose (b : Bool) (h : Continues after cs cs') :
    Continues after (Flags.skipVerbose b cs) (Flags.skipVerbose b cs') := by
  rcases h with rfl | rfl
  · exact .refl _
  induction cs generalizing b with
  | nil =>
    cases b with
    | false => exact .inr rfl
    | true => exact .inl (skipVerbose_closing after)
  | cons c cs ih =>
    rw [List.cons_append, Flags.skipVerbose, Flags.skipVerbose]
    split
    · exact ih _
    split
    · exact ih _
    split
    · exact ih _
    · exact .close (c :: cs)

theorem skip (f : Flags) (h : Continues after cs cs') : Continues after (f.skip cs) (f.skip cs') := by
  unfold Flags.skip
  split
  · exact h.skipVerbose false
  · exact h

theorem dropBlanks (h : Continues after cs cs') :
    Continues after (cs.dropWhile Text.isBlank) (cs'.dropWhile Text.isBlank) := by
  rcases h with rfl | rfl
  · exact .refl _
  induction cs with
  | nil => exact .inr rfl
  | cons c cs ih =>
    rw [List.cons_append, List.dropWhile_cons, List.dropWhile_cons]
    split
    · exact ih
    · exact .close (c :: cs)

theorem dropLazy (h : Continues after cs cs') :
    Continues after (Pattern.dropLazy cs) (Pattern.dropLazy cs') := by
  rcases h with rfl | rfl
  · exact .refl _
  unfold Pattern.dropLazy
  split
  · exact .close _
  · next hne =>
    split
    · next tail htail =>
      cases cs with
      | nil => cases htail
      | cons c cs => cases htail; exact absurd rfl (hne cs)
    · exact .close cs

/-- A run that ends at a character of the text ends there with the closing too. -/
theorem run (h : Continues after cs cs') {f : Flags} {p : Char → Bool} {b : Bool}
    {taken : List Char} {c : Char} {rest : List Char}
    (hrun : f.run p b cs = (taken, c :: rest)) :
    ∃ rest', f.run p b cs' = (taken, c :: rest') ∧ Continues after rest rest' := by
  rcases h with rfl | rfl
  · exact ⟨rest, hrun, .refl rest⟩
  refine ⟨rest ++ closing after, ?_, .close rest⟩
  induction cs generalizing b taken with
  | nil => cases hrun
  | cons d cs ih =>
    rw [List.cons_append]
    unfold Flags.run at hrun ⊢
    split_ifs at hrun ⊢ with hcomment hd hblank hhash
    · exact ih hrun
    · obtain ⟨rfl, hrest⟩ := Prod.mk.inj hrun
      rw [ih (Prod.ext rfl hrest)]
    · exact ih hrun
    · exact ih hrun
    · cases hrun
      rfl

/-- A text that is cut at a character of its own is cut there with the closing too. -/
theorem cut (h : Continues after cs cs') {p : Char → Bool} {c : Char} {rest : List Char}
    (hdrop : cs.dropWhile p = c :: rest) :
    ∃ rest', cs'.takeWhile p = cs.takeWhile p ∧ cs'.dropWhile p = c :: rest' ∧
      Continues after rest rest' := by
  rcases h with rfl | rfl
  · exact ⟨rest, rfl, hdrop, .refl rest⟩
  refine ⟨rest ++ closing after, ?_, ?_, .close rest⟩
  · rw [List.takeWhile_append, if_neg]
    intro hlen
    have := congrArg List.length (List.takeWhile_append_dropWhile (p := p) (l := cs))
    rw [List.length_append, hlen, hdrop] at this
    simp at this
  · rw [List.dropWhile_append, hdrop]
    rfl

end Continues

/-! ## Readings that outlast the closing -/

/-- What the first reading comes to, the second comes to as well, with a result that corresponds. -/
def Carries {α : Type} (R : α → α → Prop) (r r' : Option α) : Prop :=
  ∀ a, r = some a → ∃ a', r' = some a' ∧ R a a'

/-- Two results alike but for the text that is left. -/
inductive Leaves (after : List TextEdge) {α : Type} : α × List Char → α × List Char → Prop where
  | mk (a : α) {rest rest' : List Char} (h : Continues after rest rest') :
    Leaves after (a, rest) (a, rest')

/-- Two results of two parts each, alike but for the text that is left. -/
inductive Leaves₂ (after : List TextEdge) {α β : Type} :
    α × β × List Char → α × β × List Char → Prop where
  | mk (a : α) (b : β) {rest rest' : List Char} (h : Continues after rest rest') :
    Leaves₂ after (a, b, rest) (a, b, rest')

namespace Carries

variable {α β : Type} {R : α → α → Prop} {S : β → β → Prop}

theorem none {r' : Option α} : Carries R none r' := nofun

theorem some {a a' : α} (h : R a a') : Carries R (some a) (some a') := by
  rintro _ ⟨⟩
  exact ⟨a', rfl, h⟩

theorem bind {r r' : Option α} {f f' : α → Option β} (h : Carries R r r')
    (hf : ∀ a a', R a a' → Carries S (f a) (f' a')) : Carries S (r >>= f) (r' >>= f') := by
  intro b hb
  obtain ⟨a, ha, hfa⟩ := Option.bind_eq_some_iff.mp hb
  obtain ⟨a', ha', haa'⟩ := h a ha
  obtain ⟨b', hb', hbb'⟩ := hf a a' haa' b hfa
  exact ⟨b', by rw [ha']; exact hb', hbb'⟩

/-- Where both readings go on from the same value, only what follows is to be compared. -/
theorem bind_same {r : Option α} {f f' : α → Option β}
    (hf : ∀ a, Carries S (f a) (f' a)) : Carries S (r >>= f) (r >>= f') := by
  intro b hb
  obtain ⟨a, ha, hfa⟩ := Option.bind_eq_some_iff.mp hb
  obtain ⟨b', hb', hbb'⟩ := hf a b hfa
  exact ⟨b', by rw [ha]; exact hb', hbb'⟩

theorem map {r r' : Option α} {f f' : α → β} (h : Carries R r r')
    (hf : ∀ a a', R a a' → S (f a) (f' a')) : Carries S (r.map f) (r'.map f') := by
  intro b hb
  obtain ⟨a, ha, rfl⟩ := Option.map_eq_some_iff.mp hb
  obtain ⟨a', ha', haa'⟩ := h a ha
  exact ⟨f' a', by rw [ha']; rfl, hf a a' haa'⟩

theorem map_same {r : Option α} {f f' : α → β} (hf : ∀ a, S (f a) (f' a)) :
    Carries S (r.map f) (r.map f') := by
  intro b hb
  obtain ⟨a, ha, rfl⟩ := Option.map_eq_some_iff.mp hb
  exact ⟨f' a, by rw [ha]; rfl, hf a⟩

/-- What is made of a result leaves the same text. -/
theorem map_read {r r' : Option (α × List Char)} (h : Carries (Leaves after) r r') (g : α → β) :
    Carries (Leaves after) (r.map fun x => (g x.1, x.2)) (r'.map fun x => (g x.1, x.2)) :=
  h.map fun | _, _, ⟨a, hrest⟩ => ⟨g a, hrest⟩

end Carries

/-- Carries, and fails where the first reading fails. -/
def Alike (after : List TextEdge) {α : Type} (r r' : Option (α × List Char)) : Prop :=
  (r = none → r' = none) ∧ Carries (Leaves after) r r'

variable {f : Flags} {cs cs' : List Char}

/-! ## Escapes -/

theorem readExactly_carries (n : Nat) (h : Continues after cs cs') :
    Carries (Leaves after) (readExactly f n cs) (readExactly f n cs') := by
  induction n generalizing cs cs' with
  | zero => exact .some ⟨[], h⟩
  | succ n ih =>
    cases cs with
    | nil => exact .none
    | cons c cs =>
      obtain ⟨tail, rfl, htail⟩ := h.of_cons
      exact (ih (htail.skip f)).map fun | _, _, ⟨read, hrest⟩ => ⟨c :: read, hrest⟩

theorem readCodePoint_carries (width : Nat) (h : Continues after cs cs') :
    Carries (Leaves after) (readCodePoint f width cs) (readCodePoint f width cs') := by
  unfold readCodePoint
  have hskip := h.skip f
  generalize f.skip cs = s at hskip ⊢
  generalize f.skip cs' = s' at hskip ⊢
  cases s with
  | nil => exact .none
  | cons c s =>
    obtain ⟨tail, rfl, htail⟩ := hskip.of_cons
    by_cases hc : c = '\x7b'
    · subst hc
      simp only
      split
      · exact .none
      · next digits rest hdigits hrun =>
        obtain ⟨rest', hrun', hrest⟩ := htail.run hrun
        simp only [hrun']
        exact .map_same fun c => ⟨c, hrest.skip f⟩
      · exact .none
    · simp only [List.cons.injEq, hc, false_and, imp_self, implies_true]
      refine (readExactly_carries width hskip).bind fun | _, _, ⟨digits, hrest⟩ => ?_
      dsimp only
      refine .bind_same fun n => .bind_same fun c => ?_
      split_ifs
      · exact .none
      · exact .some ⟨c, hrest⟩

theorem readWordEdge_carries (h : Continues after cs cs') :
    Carries (Leaves after) (readWordEdge f cs) (readWordEdge f cs') := by
  cases cs with
  | nil => rcases h.of_nil with rfl | rfl <;> exact .some ⟨_, h⟩
  | cons c cs =>
    obtain ⟨tail, rfl, htail⟩ := h.of_cons
    unfold readWordEdge
    by_cases hc : c = '\x7b'
    · subst hc
      simp only
      have hskip := htail.skip f
      generalize f.skip cs = s at hskip ⊢
      generalize f.skip tail = s' at hskip ⊢
      cases s with
      | nil => exact .none
      | cons d s =>
        obtain ⟨tail', rfl, htail'⟩ := hskip.of_cons
        simp only
        split_ifs with hd
        · split
          · next name rest hrun =>
            obtain ⟨rest', hrun', hrest⟩ := hskip.run hrun
            simp only [hrun']
            split
            all_goals first | exact .none | exact .some ⟨_, hrest⟩
          · exact .none
        · exact .some ⟨_, h⟩
    · simp only [List.cons.injEq, hc, false_and, imp_self, implies_true]
      exact .some ⟨_, h⟩

theorem Escape.read?_carries (h : Continues after cs cs') :
    Carries (Leaves after) (Escape.read? f cs) (Escape.read? f cs') := by
  cases cs with
  | nil => exact .none
  | cons c cs =>
    obtain ⟨tail, rfl, htail⟩ := h.of_cons
    simp only [Escape.read?]
    split
    case h_16 =>
      split
      · exact .some ⟨_, htail⟩
      · split_ifs
        · exact .some ⟨_, htail⟩
        · exact .none
    all_goals
      first
      | exact .some ⟨_, htail⟩
      | exact (readCodePoint_carries _ htail).map_read _
      | exact (readWordEdge_carries htail).map_read _

/-! ## Groups -/

theorem readLetters_carries (seen : List (Flag × Bool)) (negated dangling : Bool)
    (h : Continues after cs cs') :
    Carries (Leaves₂ after) (Flags.readLetters seen negated dangling cs)
      (Flags.readLetters seen negated dangling cs') := by
  induction cs generalizing seen negated dangling cs' with
  | nil => exact .none
  | cons c cs ih =>
    obtain ⟨tail, rfl, htail⟩ := h.of_cons
    simp only [Flags.readLetters]
    split_ifs
    · exact .none
    · exact .some ⟨_, _, htail⟩
    · exact .none
    · exact ih _ _ _ htail
    · split
      · exact .none
      · split_ifs
        · exact .none
        · exact ih _ _ _ htail

theorem readGroupName_carries (h : Continues after cs cs') :
    Carries (Leaves after) (readGroupName f cs) (readGroupName f cs') := by
  unfold readGroupName
  split
  · next c name d rest htake hdrop =>
    obtain ⟨rest', htake', hdrop', hrest⟩ := h.cut hdrop
    rw [htake', htake, hdrop']
    simp only
    split_ifs
    · exact .some ⟨_, hrest⟩
    · exact .none
  · exact .none

/-- Reads a group start that switches flags, its question mark already read. -/
def readSwitches (f : Flags) (cs : List Char) : Option (GroupStart × List Char) :=
  match Flags.readLetters [] false false cs with
  | none => none
  | some (switches, final, rest) =>
    if final = ':' then some (.opened (f.switchAll switches) none, rest)
    else if switches.isEmpty then none
    else some (.switch (f.switchAll switches), rest)

theorem readSwitches_carries (h : Continues after cs cs') :
    Carries (Leaves after) (readSwitches f cs) (readSwitches f cs') := by
  unfold readSwitches
  rcases hread : Flags.readLetters [] false false cs with _ | read
  · exact .none
  obtain ⟨_, hread', switches, final, hrest⟩ := readLetters_carries [] false false h read hread
  rw [hread']
  simp only
  split_ifs
  · exact .some ⟨_, hrest⟩
  · exact .none
  · exact .some ⟨_, hrest⟩

theorem readGroupStart_carries (h : Continues after cs cs') :
    Carries (Leaves after) (readGroupStart f cs) (readGroupStart f cs') := by
  unfold readGroupStart
  have hskip := h.skip f
  generalize f.skip cs = s at hskip ⊢
  generalize f.skip cs' = s' at hskip ⊢
  cases s with
  | nil => rcases hskip.of_nil with rfl | rfl <;> exact .some ⟨_, hskip⟩
  | cons c s =>
    obtain ⟨tail, rfl, htail⟩ := hskip.of_cons
    by_cases hc : c = '?'
    case neg =>
      simp only [List.cons.injEq, hc, false_and, imp_self, implies_true]
      exact .some ⟨_, hskip⟩
    subst hc
    cases s with
    | nil => exact .none
    | cons d s =>
      obtain ⟨tail, rfl, hs⟩ := htail.of_cons
      by_cases hP : d = 'P'
      · subst hP
        cases s with
        | nil => exact .none
        | cons e s =>
          obtain ⟨tail, rfl, hname⟩ := hs.of_cons
          by_cases he : e = '<'
          · subst he
            exact readGroupName_carries hname
          · simp only [List.cons.injEq, he, false_and, and_false, imp_self, implies_true,
              Char.reduceEq]
            exact readSwitches_carries (f := f) htail
      by_cases hangle : d = '<'
      · subst hangle
        cases s with
        | nil => exact .none
        | cons e s =>
          obtain ⟨tail, rfl, -⟩ := hs.of_cons
          by_cases hahead : e = '='
          · subst hahead
            exact .none
          by_cases hnot : e = '!'
          · subst hnot
            exact .none
          simp only [List.cons.injEq, false_and, imp_self, implies_true, hahead, hnot]
          exact readGroupName_carries hs
      · simp only [List.cons.injEq, false_and, imp_self, implies_true, hP, hangle]
        exact readSwitches_carries htail

theorem readLeaf_carries (h : Continues after cs cs') :
    Carries (Leaves after) (readLeaf f cs) (readLeaf f cs') := by
  cases cs with
  | nil => exact .none
  | cons c cs =>
    obtain ⟨tail, rfl, htail⟩ := h.of_cons
    by_cases hescape : c = '\\'
    · subst hescape
      exact (Escape.read?_carries htail).map_read _
    by_cases hdot : c = '.'
    · subst hdot
      exact .map_same fun s => ⟨_, htail⟩
    by_cases hstart : c = '^'
    · subst hstart
      exact .some ⟨_, htail⟩
    by_cases hend : c = '$'
    · subst hend
      exact .some ⟨_, htail⟩
    simp only [readLeaf]
    exact .some ⟨_, htail⟩

/-! ## Repetitions -/

theorem Continues.readDecimal (h : Continues after cs cs') {n? : Option Nat} {c : Char}
    {rest : List Char} (hread : readDecimal f cs = (n?, c :: rest)) :
    ∃ rest', Pattern.readDecimal f cs' = (n?, c :: rest') ∧ Continues after rest rest' := by
  unfold Pattern.readDecimal at hread ⊢
  rcases hrun : f.run Char.isDigit false (cs.dropWhile Text.isBlank) with ⟨digits, unread⟩
  rw [hrun] at hread
  obtain ⟨rfl, hblanks⟩ := Prod.mk.inj hread
  cases unread with
  | nil => cases hblanks
  | cons d unread =>
    obtain ⟨unread', hrun', hunread⟩ := h.dropBlanks.run hrun
    have hrest := (hunread.cons d).dropBlanks
    rw [hblanks] at hrest
    obtain ⟨rest', hrest', hcont⟩ := hrest.of_cons
    refine ⟨rest', ?_, hcont⟩
    rw [hrun', ← hrest']

/-- Reads the upper bound of a counted repetition, its comma already read. -/
def readUpper (f : Flags) (min? : Option Nat) (cs : List Char) :
    Option ((Nat × Option Nat) × List Char) :=
  let (max?, rest) := readDecimal f cs
  match rest with
  | '\x7d' :: rest => do
    let min ← min?
    let max ← max?
    if min ≤ max then return ((min, some max), dropLazy (f.skip rest)) else none
  | _ => none

theorem readUpper_carries (min? : Option Nat) (h : Continues after cs cs') :
    Carries (Leaves after) (readUpper f min? cs) (readUpper f min? cs') := by
  unfold readUpper
  rcases hread : readDecimal f cs with ⟨max?, _ | ⟨c, rest⟩⟩
  · exact .none
  obtain ⟨rest', hread', hrest⟩ := h.readDecimal hread
  rw [hread']
  by_cases hc : c = '\x7d'
  · subst hc
    refine .bind_same fun min => .bind_same fun max => ?_
    split_ifs
    · exact .some ⟨_, (hrest.skip f).dropLazy⟩
    · exact .none
  · simp only [List.cons.injEq, hc, false_and, imp_self, implies_true]
    exact .none

theorem readCount_carries (h : Continues after cs cs') :
    Carries (Leaves after) (readCount f cs) (readCount f cs') := by
  unfold readCount
  rcases hread : readDecimal f (f.skip cs) with ⟨min?, _ | ⟨c, rest⟩⟩
  · exact .none
  obtain ⟨rest', hread', hrest⟩ := (h.skip f).readDecimal hread
  rw [hread']
  by_cases hclose : c = '\x7d'
  · subst hclose
    exact .bind_same fun min => .some ⟨_, (hrest.skip f).dropLazy⟩
  by_cases hcomma : c = ','
  case neg =>
    simp only [List.cons.injEq, hclose, hcomma, false_and, imp_self, implies_true]
    exact .none
  subst hcomma
  simp only
  have hskip := hrest.skip f
  generalize f.skip rest = s at hskip ⊢
  generalize f.skip rest' = s' at hskip ⊢
  cases s with
  | nil => exact .none
  | cons d s =>
    obtain ⟨tail, rfl, htail⟩ := hskip.of_cons
    by_cases hd : d = '\x7d'
    · subst hd
      exact .bind_same fun min => .some ⟨_, (htail.skip f).dropLazy⟩
    · simp only [List.cons.injEq, hd, false_and, imp_self, implies_true]
      exact readUpper_carries (f := f) min? hskip

/-! ## Classes -/

namespace Bracket

theorem readAtom_carries (h : Continues after cs cs') :
    Carries (Leaves after) (readAtom f cs) (readAtom f cs') := by
  cases cs with
  | nil => exact .none
  | cons c cs =>
    obtain ⟨tail, rfl, htail⟩ := h.of_cons
    by_cases hescape : c = '\\'
    · subst hescape
      exact Escape.read?_carries htail
    · simp only [readAtom]
      exact .some ⟨_, htail⟩

/-- The closing does not bring about a character that could decide on a range, and does not hide
one. -/
theorem peek_continues (h : Continues after cs cs') {c : Char} (hblank : Text.isBlank c = false)
    (hhash : c ≠ '#') (hparen : c ≠ ')') : f.peek cs' = some c ↔ f.peek cs = some c := by
  rcases h with rfl | rfl
  · exact .rfl
  have hclosing : (closing after).dropWhile Text.isBlank = closing after := rfl
  unfold Flags.peek
  split_ifs with hverbose
  · by_cases hcs : cs.head? = some c
    · obtain ⟨rest, rfl⟩ := List.head?_eq_some_iff.mp hcs
      simp [hblank, hhash]
    rw [List.dropWhile_append, hclosing]
    rcases cs.dropWhile Text.isBlank with _ | ⟨d, rest⟩
    · simp [closing, hcs, hparen.symm]
    by_cases hd : d = '#'
    · subst hd
      simp only [List.isEmpty_cons, List.cons_append, Bool.false_eq_true, if_false, if_true,
        List.dropWhile_append, hclosing]
      rcases rest.dropWhile Text.isBlank with _ | ⟨d, rest⟩
      · simp [closing, hcs, hparen.symm]
      · simp
    · simp [hd]
  · cases cs with
    | nil => simp [closing, hparen.symm]
    | cons d cs => rfl

theorem readRange_carries (h : Continues after cs cs') :
    Carries (Leaves after) (readRange f cs) (readRange f cs') := by
  unfold readRange
  refine (readAtom_carries h).bind fun | _, _, ⟨first, hrest⟩ => ?_
  rename_i rest rest'
  simp only
  have hskip := hrest.skip f
  generalize f.skip rest = s at hskip ⊢
  generalize f.skip rest' = s' at hskip ⊢
  cases s with
  | nil => exact .none
  | cons c s =>
    obtain ⟨tail, rfl, htail⟩ := hskip.of_cons
    by_cases hhyphen : c = '-'
    case neg =>
      simp only [List.cons.injEq, hhyphen, false_and, imp_self, implies_true]
      exact .bind_same fun item => .some ⟨_, hskip⟩
    subst hhyphen
    simp only [peek_continues (f := f) htail (c := ']') rfl (by decide) (by decide),
      peek_continues (f := f) htail (c := '-') rfl (by decide) (by decide)]
    split_ifs with hpeek
    · exact .bind_same fun item => .some ⟨_, hskip⟩
    · refine (readAtom_carries (htail.skip f)).bind fun | _, _, ⟨last, hrest⟩ => ?_
      simp only
      split
      · split_ifs
        · exact .some ⟨_, hrest⟩
        · exact .none
      · exact .none

/-- Reads the name of an ASCII class, its colon and its negation already read. -/
def readAsciiName (f : Flags) (negated : Bool) (cs : List Char) : Option (Bracket × List Char) :=
  match cs.dropWhile (· != ':') with
  | ':' :: ']' :: rest =>
    (CharSet.ofAsciiName? (cs.takeWhile (· != ':'))).map fun s =>
      let s := ignoringCase f s
      (leaf (if negated then .compl s else s), rest)
  | _ => none

theorem readAsciiName_alike (negated : Bool) (h : Continues after cs cs') :
    Alike after (readAsciiName f negated cs) (readAsciiName f negated cs') := by
  unfold readAsciiName
  rcases hdrop : cs.dropWhile (· != ':') with _ | ⟨c, rest⟩
  · have hdrop' : cs'.dropWhile (· != ':') = [] := by
      rcases h with rfl | rfl
      · exact hdrop
      · rw [List.dropWhile_append, hdrop]
        exact dropWhile_closing after
    rw [hdrop']
    exact ⟨fun _ => rfl, .none⟩
  · obtain ⟨rest', htake, hdrop', hrest⟩ := h.cut hdrop
    rw [hdrop', htake]
    by_cases hc : c = ':'
    case neg =>
      simp only [List.cons.injEq, hc, false_and, imp_self, implies_true]
      exact ⟨fun _ => rfl, .none⟩
    subst hc
    cases rest with
    | nil =>
      rcases hrest.of_nil with rfl | rfl <;> exact ⟨fun _ => rfl, .none⟩
    | cons d rest =>
      obtain ⟨tail, rfl, htail⟩ := hrest.of_cons
      by_cases hd : d = ']'
      · subst hd
        refine ⟨fun hnone => ?_, .map_same fun s => ⟨_, htail⟩⟩
        simp only [Option.map_eq_none_iff] at hnone ⊢
        exact hnone
      · simp only [List.cons.injEq, hd, false_and, and_false, imp_self, implies_true]
        exact ⟨fun _ => rfl, .none⟩

/-- An ASCII class is read to its own end, and what is none the closing makes none. -/
theorem readAscii_alike (h : Continues after cs cs') :
    Alike after (readAscii f cs) (readAscii f cs') := by
  cases cs with
  | nil => rcases h.of_nil with rfl | rfl <;> exact ⟨fun _ => rfl, .none⟩
  | cons c cs =>
    obtain ⟨tail, rfl, htail⟩ := h.of_cons
    by_cases hc : c = ':'
    case neg =>
      simp only [readAscii, List.cons.injEq, hc, false_and, imp_self, implies_true]
      exact ⟨fun _ => rfl, .none⟩
    subst hc
    cases cs with
    | nil => rcases htail.of_nil with rfl | rfl <;> exact readAsciiName_alike (f := f) false htail
    | cons d cs =>
      obtain ⟨tail, rfl, hname⟩ := htail.of_cons
      by_cases hd : d = '^'
      · subst hd
        exact readAsciiName_alike (f := f) true hname
      · simp only [readAscii, List.cons.injEq, hd, false_and, imp_self, implies_true]
        exact readAsciiName_alike (f := f) false htail

/-- Reads the start of a class, its negation already read. -/
def readHyphens (f : Flags) (negated : Bool) (cs : List Char) :
    Option (Bool × List Bracket × List Char) :=
  let (hyphens, cs) := f.run (· == '-') false cs
  match hyphens, cs with
  | _, [] => none
  | [], ']' :: rest => some (negated, [leaf (.singleton ']')], f.skip rest)
  | _, cs => some (negated, hyphens.map fun c => leaf (.singleton c), cs)

theorem readHyphens_carries (negated : Bool) (h : Continues after cs cs') :
    Carries (Leaves₂ after) (readHyphens f negated cs) (readHyphens f negated cs') := by
  unfold readHyphens
  rcases hrun : f.run (· == '-') false cs with ⟨hyphens, _ | ⟨c, rest⟩⟩
  · exact .none
  obtain ⟨rest', hrun', hrest⟩ := h.run hrun
  rw [hrun']
  by_cases hc : c = ']'
  · subst hc
    cases hyphens with
    | nil => exact .some ⟨_, _, hrest.skip f⟩
    | cons d hyphens => exact .some ⟨_, _, hrest.cons ']'⟩
  · simp only [List.cons.injEq, hc, false_and, imp_self, implies_true]
    exact .some ⟨_, _, hrest.cons c⟩

theorem readStart_carries (h : Continues after cs cs') :
    Carries (Leaves₂ after) (readStart f cs) (readStart f cs') := by
  unfold readStart
  have hskip := h.skip f
  generalize f.skip cs = s at hskip ⊢
  generalize f.skip cs' = s' at hskip ⊢
  cases s with
  | nil =>
    rcases hskip.of_nil with rfl | rfl <;> exact readHyphens_carries (f := f) false hskip
  | cons c s =>
    obtain ⟨tail, rfl, htail⟩ := hskip.of_cons
    by_cases hc : c = '^'
    · subst hc
      exact readHyphens_carries (f := f) true (htail.skip f)
    · simp only [List.cons.injEq, hc, false_and, imp_self, implies_true]
      exact readHyphens_carries (f := f) false hskip

/-- A character that begins an item of a class: it starts no class, ends none, and is no operator
together with the text after it. -/
structure BeginsItem (c : Char) (s : List Char) : Prop where
  not_open : c ≠ '['
  not_close : c ≠ ']'
  not_operator : ∀ rest, s = c :: rest → c ≠ '&' ∧ c ≠ '-' ∧ c ≠ '~'

/-- The closing does not make an operator of the last character. -/
theorem BeginsItem.continues {c : Char} {s s' : List Char} (hitem : BeginsItem c s)
    (h : Continues after s s') : BeginsItem c s' := by
  refine ⟨hitem.not_open, hitem.not_close, ?_⟩
  rintro rest rfl
  cases s with
  | nil =>
    rcases h.of_nil with h | h
    · cases h
    · cases h
      decide
  | cons d s =>
    obtain ⟨_, h, -⟩ := h.of_cons
    cases h
    exact hitem.not_operator s rfl

theorem readInside_item {n : Nat} {left : Option (SetOp × Bracket)} {items : List Bracket}
    {c : Char} {s : List Char} (hs : f.skip cs = c :: s) (hitem : BeginsItem c s) :
    readInside f (n + 1) left items cs = (do
      let (item, rest) ← readRange f (c :: s)
      readInside f n left (item :: items) rest) := by
  obtain ⟨hopen, hclose, hop⟩ := hitem
  rw [readInside, hs]
  split <;> simp_all

/-- The rest of a class is read in the same way with the closing after it. -/
theorem readInside_carries {n m : Nat} (hnm : n ≤ m) (left : Option (SetOp × Bracket))
    (items : List Bracket) (h : Continues after cs cs') :
    Carries (Leaves after) (readInside f n left items cs) (readInside f m left items cs') := by
  induction n generalizing m left items cs cs' with
  | zero => exact .none
  | succ n ih =>
    obtain ⟨m, rfl⟩ : ∃ k, m = k + 1 := ⟨m - 1, by omega⟩
    have hnm : n ≤ m := by omega
    have hskip := h.skip f
    rcases hs : f.skip cs with _ | ⟨c, s⟩
    · rw [readInside, hs]
      exact .none
    rw [hs] at hskip
    obtain ⟨tail, hs', htail⟩ := hskip.of_cons
    by_cases hopen : c = '['
    · subst hopen
      rw [readInside, readInside, hs, hs']
      simp only
      rcases hascii : readAscii f s with _ | ascii
      · rw [(readAscii_alike htail).1 hascii]
        refine (readStart_carries htail).bind fun | _, _, ⟨negated, start, hstart⟩ => ?_
        refine (ih hnm none start.reverse hstart).bind fun | _, _, ⟨inside, hinside⟩ => ?_
        exact .bind_same fun item => ih hnm left _ hinside
      · obtain ⟨_, hascii', item, hrest⟩ := (readAscii_alike htail).2 ascii hascii
        rw [hascii']
        exact ih hnm left _ hrest
    by_cases hclose : c = ']'
    · subst hclose
      rw [readInside, readInside, hs, hs']
      exact .some ⟨_, htail⟩
    by_cases hop : (c = '&' ∨ c = '-' ∨ c = '~') ∧ ∃ rest, s = c :: rest
    · obtain ⟨hc, rest, rfl⟩ := hop
      obtain ⟨rest', rfl, hrest⟩ := htail.of_cons
      rw [readInside, readInside, hs, hs']
      rcases hc with rfl | rfl | rfl <;> exact ih hnm _ [] hrest
    · have hitem : BeginsItem c s := by
        refine ⟨hopen, hclose, ?_⟩
        rintro rest rfl
        simpa using hop
      rw [readInside_item hs hitem, readInside_item hs' (hitem.continues htail)]
      rw [hs'] at hskip
      exact (readRange_carries hskip).bind fun | _, _, ⟨item, hrest⟩ => ih hnm left _ hrest

theorem read?_carries (h : Continues after cs cs') :
    Carries (Leaves after) (Bracket.read? f cs) (Bracket.read? f cs') := by
  have hlen : cs.length + 1 ≤ cs'.length + 1 := Nat.succ_le_succ h.length_le
  unfold Bracket.read?
  refine (readStart_carries h).bind fun | _, _, ⟨negated, start, hstart⟩ => ?_
  refine (readInside_carries hlen none start.reverse hstart).bind
    fun | _, _, ⟨inside, hinside⟩ => ?_
  exact .bind_same fun item => .some ⟨_, hinside⟩

end Bracket

/-! ## Patterns -/

/-- What has no meaning of its own in a pattern is read as a leaf. -/
theorem readAlternatives_leaf {n : Nat} {names : List (List Char)} {done : List Piece}
    {items : List Item} {c : Char} {s : List Char} (hs : f.skip cs = c :: s)
    (hc : c ∉ [')', '|', '(', '[', '?', '*', '+', '\x7b']) :
    readAlternatives (n + 1) f names done items cs = (do
      let (e, rest) ← readLeaf f (c :: s)
      readAlternatives n f names done (.leaf e :: items) rest) := by
  rw [readAlternatives, hs]
  split <;> simp_all

/-- A pattern is read in the same way with the closing after it, up to its end or up to a
parenthesis that it does not open. -/
theorem readAlternatives_carries {n m : Nat} (hnm : n ≤ m) (f : Flags) (names : List (List Char))
    (done : List Piece) (items : List Item) (h : Continues after cs cs') :
    Carries (Leaves₂ after) (readAlternatives n f names done items cs)
      (readAlternatives m f names done items cs') := by
  induction n generalizing m f names done items cs cs' with
  | zero => exact .none
  | succ n ih =>
    obtain ⟨m, rfl⟩ : ∃ k, m = k + 1 := ⟨m - 1, by omega⟩
    have hnm : n ≤ m := by omega
    have hskip := h.skip f
    rcases hs : f.skip cs with _ | ⟨c, s⟩
    · -- the pattern ends, at its own end or at the closing
      rw [hs] at hskip
      rw [readAlternatives, readAlternatives, hs]
      rcases hskip.of_nil with hs' | hs' <;> rw [hs'] at hskip ⊢ <;> exact .some ⟨_, _, hskip⟩
    rw [hs] at hskip
    obtain ⟨tail, hs', htail⟩ := hskip.of_cons
    rw [hs'] at hskip
    by_cases hc : c ∈ [')', '|', '(', '[', '?', '*', '+', '\x7b']
    case neg =>
      rw [readAlternatives_leaf hs hc, readAlternatives_leaf hs' hc]
      exact (readLeaf_carries hskip).bind fun | _, _, ⟨e, hrest⟩ => ih hnm _ _ _ _ hrest
    rw [readAlternatives, readAlternatives, hs, hs']
    simp only [List.mem_cons, List.not_mem_nil, or_false] at hc
    rcases hc with rfl | rfl | rfl | rfl | rfl | rfl | rfl | rfl
    · exact .some ⟨_, _, hskip⟩
    · exact ih hnm _ _ _ _ htail
    · -- a group; its inside must end at a parenthesis of the text, not at that of the closing
      refine (readGroupStart_carries htail).bind fun | _, _, ⟨start, hrest⟩ => ?_
      cases start with
      | switch g => exact ih hnm _ _ _ _ hrest
      | opened inner name =>
        simp only
        split_ifs
        · exact .none
        refine (ih hnm inner _ [] [] hrest).bind fun | _, _, ⟨inside, names, hrest⟩ => ?_
        rename_i rest rest'
        cases rest with
        | nil => exact .none
        | cons d rest =>
          obtain ⟨tail, rfl, htail⟩ := hrest.of_cons
          by_cases hd : d = ')'
          · subst hd
            exact ih hnm _ _ _ _ htail
          · simp only [List.cons.injEq, hd, false_and, imp_self, implies_true]
            exact .none
    · exact (Bracket.read?_carries htail).bind fun | _, _, ⟨b, hrest⟩ => ih hnm _ _ _ _ hrest
    · exact .bind_same fun items => ih hnm _ _ _ _ htail.dropLazy
    · exact .bind_same fun items => ih hnm _ _ _ _ htail.dropLazy
    · exact .bind_same fun items => ih hnm _ _ _ _ htail.dropLazy
    · refine (readCount_carries htail).bind fun | _, _, ⟨bounds, hrest⟩ => ?_
      exact .bind_same fun items => ih hnm _ _ _ _ hrest

end HeaderFacts.Pattern
