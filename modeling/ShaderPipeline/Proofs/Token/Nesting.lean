import Mathlib.Data.List.Infix
import ShaderPipeline.Proofs.Token.Spelling

/-!
# Nesting depths

A scan keeps one counter for open parentheses and one for open braces, and a counter
that is at zero stays there.  Here the brackets of one kind are matched by a stack
instead: a closer takes the last opener that waits for it, and is ignored when none
does.  The depth of a token is then the number of openers in front of it that wait,
whether the text is balanced or not.
-/

namespace ShaderPipeline

/-- The kinds of brackets whose nesting is counted. -/
inductive Nesting where
  | parens
  | braces
deriving Repr, DecidableEq

/-- Brackets of one kind, matched from the start of a text.  A token is given by its
position. -/
structure Matching where
  /-- The openers without a partner so far, the last one first. -/
  waiting : List Nat := []
  /-- The openers with a partner, each with its closer. -/
  pairs : List (Nat × Nat) := []
deriving Repr, DecidableEq

namespace Nesting

def opener : Nesting → String
  | .parens => "("
  | .braces => "\x7b"

def closer : Nesting → String
  | .parens => ")"
  | .braces => "\x7d"

def depth : Nesting → Token → Nat
  | .parens => Token.parenDepth
  | .braces => Token.braceDepth

def counter : Nesting → ScanState → Nat
  | .parens => ScanState.parenDepth
  | .braces => ScanState.braceDepth

/-- An opener waits for its partner.  A closer takes the last opener that waits, and
one that finds none is ignored. -/
def step (nesting : Nesting) (matching : Matching) (item : Token × Nat) : Matching :=
  if item.1.text = nesting.opener then
    { matching with waiting := item.2 :: matching.waiting }
  else if item.1.text = nesting.closer then
    match matching.waiting with
    | [] => matching
    | partner :: waiting => ⟨waiting, (partner, item.2) :: matching.pairs⟩
  else matching

/-- The brackets of some tokens, matched by a stack. -/
def matching (nesting : Nesting) (tokens : List Token) : Matching :=
  tokens.zipIdx.foldl nesting.step {}

/-- The token at a position has the text. -/
def StandsAt (tokens : List Token) (position : Nat) (text : String) : Prop :=
  tokens[position]?.map Token.text = some text

instance (tokens : List Token) (position : Nat) (text : String) :
    Decidable (StandsAt tokens position text) :=
  inferInstanceAs (Decidable (_ = _))

/-- The openers in front of a position that no closer up to it has matched. -/
def unmatchedAt (nesting : Nesting) (tokens : List Token) (position : Nat) : List Nat :=
  (List.range position).filter fun place =>
    StandsAt tokens place nesting.opener ∧
      ∀ pair ∈ (nesting.matching tokens).pairs, pair.1 = place → position < pair.2

theorem closer_ne_opener (nesting : Nesting) : nesting.closer ≠ nesting.opener := by
  cases nesting <;> decide

section StandsAt

variable {tokens : List Token} {token : Token} {position : Nat} {text : String}

theorem standsAt_iff :
    StandsAt tokens position text ↔
      ∃ token, tokens[position]? = some token ∧ token.text = text := by
  rw [StandsAt, Option.map_eq_some_iff]

theorem StandsAt.lt_length (stands : StandsAt tokens position text) :
    position < tokens.length := by
  obtain ⟨token, found, -⟩ := standsAt_iff.mp stands
  exact (List.getElem?_eq_some_iff.mp found).1

theorem standsAt_concat :
    StandsAt (tokens ++ [token]) position text ↔
      StandsAt tokens position text ∨ position = tokens.length ∧ token.text = text := by
  rcases Nat.lt_trichotomy position tokens.length with before | rfl | behind
  · rw [StandsAt, List.getElem?_append_left before, StandsAt]
    simp [before.ne]
  · simp [StandsAt]
  · have noToken : (tokens ++ [token])[position]? = none := by
      rw [List.getElem?_eq_none_iff, List.length_append]
      exact behind
    simp [StandsAt, noToken, List.getElem?_eq_none behind.le, behind.ne']

theorem standsAt_take {stop : Nat} (before : position < stop) :
    StandsAt (tokens.take stop) position text ↔ StandsAt tokens position text := by
  rw [StandsAt, List.getElem?_take_of_lt before, StandsAt]

end StandsAt

section Steps

variable {nesting : Nesting} {tokens : List Token} {token : Token}

theorem matching_concat (nesting : Nesting) (tokens : List Token) (token : Token) :
    nesting.matching (tokens ++ [token]) =
      nesting.step (nesting.matching tokens) (token, tokens.length) := by
  simp [matching, List.zipIdx_append]

/-- All that one more token can do to the matching. -/
theorem matching_concat_cases (nesting : Nesting) (tokens : List Token) (token : Token) :
    (token.text = nesting.opener ∧ nesting.matching (tokens ++ [token]) =
      ⟨tokens.length :: (nesting.matching tokens).waiting, (nesting.matching tokens).pairs⟩) ∨
    (token.text = nesting.closer ∧ ∃ partner waiting,
      (nesting.matching tokens).waiting = partner :: waiting ∧
      nesting.matching (tokens ++ [token]) =
        ⟨waiting, (partner, tokens.length) :: (nesting.matching tokens).pairs⟩) ∨
    (token.text ≠ nesting.opener ∧
      (token.text = nesting.closer → (nesting.matching tokens).waiting = []) ∧
      nesting.matching (tokens ++ [token]) = nesting.matching tokens) := by
  rw [matching_concat, step]
  by_cases opens : token.text = nesting.opener
  · exact Or.inl ⟨opens, if_pos opens⟩
  · rw [if_neg opens]
    by_cases closes : token.text = nesting.closer
    · rw [if_pos closes]
      cases isWaiting : (nesting.matching tokens).waiting with
      | nil => exact Or.inr (Or.inr ⟨opens, fun _ => rfl, rfl⟩)
      | cons partner waiting => exact Or.inr (Or.inl ⟨closes, partner, waiting, rfl, rfl⟩)
    · rw [if_neg closes]
      exact Or.inr (Or.inr ⟨opens, fun isCloser => absurd isCloser closes, rfl⟩)

/-- The number of openers that wait is the counter that stays at zero. -/
theorem length_waiting_concat (nesting : Nesting) (tokens : List Token) (token : Token) :
    (nesting.matching (tokens ++ [token])).waiting.length =
      if token.text = nesting.opener then (nesting.matching tokens).waiting.length + 1
      else if token.text = nesting.closer then (nesting.matching tokens).waiting.length - 1
      else (nesting.matching tokens).waiting.length := by
  have distinct := nesting.closer_ne_opener
  rcases nesting.matching_concat_cases tokens token with
    ⟨opens, isMatching⟩ | ⟨closes, partner, waiting, isWaiting, isMatching⟩ |
      ⟨notOpener, ignored, isMatching⟩
  · rw [isMatching, if_pos opens]
    rfl
  · rw [isMatching, if_neg (closes ▸ distinct), if_pos closes, isWaiting]
    rfl
  · rw [isMatching, if_neg notOpener]
    split
    · next closes => rw [ignored closes]; rfl
    · rfl

end Steps

/-- What holds of the matching of all tokens read so far. -/
structure Sound (nesting : Nesting) (tokens : List Token) : Prop where
  descends : (nesting.matching tokens).waiting.Pairwise (· > ·)
  waits_iff : ∀ position, position ∈ (nesting.matching tokens).waiting ↔
    StandsAt tokens position nesting.opener ∧
      ∀ pair ∈ (nesting.matching tokens).pairs, pair.1 ≠ position
  /-- Below an opener wait those that waited when it came. -/
  nested : ∀ position ∈ (nesting.matching tokens).waiting,
    position :: (nesting.matching (tokens.take position)).waiting <:+
      (nesting.matching tokens).waiting
  /-- A closer took the opener that waited last. -/
  paired : ∀ pair ∈ (nesting.matching tokens).pairs, pair.1 < pair.2 ∧
    StandsAt tokens pair.2 nesting.closer ∧
      (nesting.matching (tokens.take pair.2)).waiting.head? = some pair.1

namespace Sound

variable {nesting : Nesting} {tokens : List Token}

theorem nodup (sound : nesting.Sound tokens) : (nesting.matching tokens).waiting.Nodup :=
  sound.descends.imp fun later => Nat.ne_of_gt later

theorem standsAt (sound : nesting.Sound tokens) {position : Nat}
    (waits : position ∈ (nesting.matching tokens).waiting) :
    StandsAt tokens position nesting.opener :=
  ((sound.waits_iff position).mp waits).1

/-- The matching in front of an earlier position does not see a new token. -/
theorem take_concat {position : Nat} (before : position ≤ tokens.length) (token : Token) :
    (tokens ++ [token]).take position = tokens.take position :=
  List.take_append_of_le_length before

theorem paired_concat (sound : nesting.Sound tokens) (token : Token) {pair : Nat × Nat}
    (member : pair ∈ (nesting.matching tokens).pairs) :
    pair.1 < pair.2 ∧ StandsAt (tokens ++ [token]) pair.2 nesting.closer ∧
      (nesting.matching ((tokens ++ [token]).take pair.2)).waiting.head? = some pair.1 := by
  obtain ⟨before, closes, waited⟩ := sound.paired pair member
  rw [take_concat closes.lt_length.le]
  exact ⟨before, standsAt_concat.mpr (Or.inl closes), waited⟩

theorem lt_length_of_mem_pairs (sound : nesting.Sound tokens) {pair : Nat × Nat}
    (member : pair ∈ (nesting.matching tokens).pairs) : pair.1 < tokens.length := by
  obtain ⟨before, closes, -⟩ := sound.paired pair member
  exact before.trans closes.lt_length

variable {token : Token}

theorem concat_of_open (sound : nesting.Sound tokens) (opens : token.text = nesting.opener)
    (isMatching : nesting.matching (tokens ++ [token]) =
      ⟨tokens.length :: (nesting.matching tokens).waiting, (nesting.matching tokens).pairs⟩) :
    nesting.Sound (tokens ++ [token]) := by
  have earlier : ∀ position ∈ (nesting.matching tokens).waiting, position < tokens.length :=
    fun position waits => (sound.standsAt waits).lt_length
  refine ⟨?_, ?_, ?_, ?_⟩ <;> rw [isMatching]
  · exact List.pairwise_cons.mpr ⟨earlier, sound.descends⟩
  · intro position
    rw [List.mem_cons, sound.waits_iff, standsAt_concat]
    constructor
    · rintro (rfl | ⟨stands, unpaired⟩)
      · exact ⟨Or.inr ⟨rfl, opens⟩, fun pair member => (sound.lt_length_of_mem_pairs member).ne⟩
      · exact ⟨Or.inl stands, unpaired⟩
    · rintro ⟨stands | ⟨isLast, -⟩, unpaired⟩
      · exact Or.inr ⟨stands, unpaired⟩
      · exact Or.inl isLast
  · intro position waits
    rcases List.mem_cons.mp waits with rfl | waits
    · rw [take_concat le_rfl, List.take_length]
    · rw [take_concat (earlier position waits).le]
      exact (sound.nested position waits).trans (List.suffix_cons _ _)
  · exact fun pair member => sound.paired_concat token member

theorem concat_of_close (sound : nesting.Sound tokens) (closes : token.text = nesting.closer)
    {partner : Nat} {waiting : List Nat}
    (isWaiting : (nesting.matching tokens).waiting = partner :: waiting)
    (isMatching : nesting.matching (tokens ++ [token]) =
      ⟨waiting, (partner, tokens.length) :: (nesting.matching tokens).pairs⟩) :
    nesting.Sound (tokens ++ [token]) := by
  have nodup := sound.nodup
  have descends := sound.descends
  rw [isWaiting] at nodup descends
  have rest : ∀ position, position ∈ waiting ↔
      position ∈ (nesting.matching tokens).waiting ∧ partner ≠ position := by
    intro position
    rw [isWaiting, List.mem_cons]
    constructor
    · intro waits
      exact ⟨Or.inr waits, fun isPartner => (List.nodup_cons.mp nodup).1 (isPartner ▸ waits)⟩
    · rintro ⟨rfl | waits, notPartner⟩
      · exact absurd rfl notPartner
      · exact waits
  refine ⟨?_, ?_, ?_, ?_⟩ <;> rw [isMatching]
  · exact descends.tail
  · intro position
    have notOpener : ¬ (position = tokens.length ∧ token.text = nesting.opener) :=
      fun opens => nesting.closer_ne_opener (closes.symm.trans opens.2)
    rw [rest, sound.waits_iff, standsAt_concat, or_iff_left notOpener, List.forall_mem_cons,
      and_assoc, and_comm (a := partner ≠ position)]
  · intro position waits
    obtain ⟨waited, notPartner⟩ := (rest position).mp waits
    have below := sound.nested position waited
    -- Only the partner has the whole stack below it.
    rw [isWaiting, List.suffix_cons_iff] at below
    rw [take_concat (sound.standsAt waited).lt_length.le]
    exact below.resolve_left fun isWhole => notPartner (List.cons_eq_cons.mp isWhole).1.symm
  · have waited : partner ∈ (nesting.matching tokens).waiting := isWaiting ▸ List.mem_cons_self
    rw [List.forall_mem_cons]
    refine ⟨⟨(sound.standsAt waited).lt_length, standsAt_concat.mpr (Or.inr ⟨rfl, closes⟩), ?_⟩,
      fun pair member => sound.paired_concat token member⟩
    rw [take_concat le_rfl, List.take_length, isWaiting]
    rfl

theorem concat_of_other (sound : nesting.Sound tokens) (notOpener : token.text ≠ nesting.opener)
    (isMatching : nesting.matching (tokens ++ [token]) = nesting.matching tokens) :
    nesting.Sound (tokens ++ [token]) := by
  refine ⟨?_, ?_, ?_, ?_⟩ <;> rw [isMatching]
  · exact sound.descends
  · intro position
    rw [sound.waits_iff, standsAt_concat, or_iff_left fun opens => notOpener opens.2]
  · intro position waits
    rw [take_concat (sound.standsAt waits).lt_length.le]
    exact sound.nested position waits
  · exact fun pair member => sound.paired_concat token member

end Sound

theorem sound (nesting : Nesting) (tokens : List Token) : nesting.Sound tokens := by
  induction tokens using List.reverseRecOn with
  | nil => exact ⟨.nil, by simp [matching, StandsAt], by simp [matching], by simp [matching]⟩
  | append_singleton tokens token ih =>
      rcases nesting.matching_concat_cases tokens token with
        ⟨opens, isMatching⟩ | ⟨closes, partner, waiting, isWaiting, isMatching⟩ |
          ⟨notOpener, -, isMatching⟩
      · exact ih.concat_of_open opens isMatching
      · exact ih.concat_of_close closes isWaiting isMatching
      · exact ih.concat_of_other notOpener isMatching

section Prefixes

variable {nesting : Nesting} {tokens : List Token} {token : Token} {position : Nat}

/-- A new token makes no pair but its own. -/
theorem mem_pairs_concat {pair : Nat × Nat} (earlier : pair.2 < tokens.length) :
    pair ∈ (nesting.matching (tokens ++ [token])).pairs ↔
      pair ∈ (nesting.matching tokens).pairs := by
  rcases nesting.matching_concat_cases tokens token with
    ⟨-, isMatching⟩ | ⟨-, partner, waiting, -, isMatching⟩ | ⟨-, -, isMatching⟩
  · rw [isMatching]
  · have other : pair ≠ (partner, tokens.length) := by
      rintro rfl
      exact Nat.lt_irrefl _ earlier
    rw [isMatching, List.mem_cons, or_iff_right other]
  · rw [isMatching]

theorem mem_pairs_take {pair : Nat × Nat} {stop : Nat} :
    pair ∈ (nesting.matching (tokens.take stop)).pairs ↔
      pair ∈ (nesting.matching tokens).pairs ∧ pair.2 < stop := by
  induction tokens using List.reverseRecOn with
  | nil => simp [matching]
  | append_singleton tokens token ih =>
      -- The last token counts, or the induction hypothesis is about the same prefix.
      rcases Nat.lt_or_ge tokens.length stop with whole | inside
      · have isWhole : (tokens ++ [token]).take stop = tokens ++ [token] := by
          rw [List.take_of_length_le]
          rw [List.length_append]
          exact whole
        rw [isWhole, iff_self_and]
        intro member
        have bound := (((nesting.sound _).paired pair member).2.1).lt_length
        rw [List.length_append, List.length_singleton] at bound
        omega
      · rw [Sound.take_concat inside, ih]
        refine and_congr_left fun before => (mem_pairs_concat ?_).symm
        exact before.trans_le inside

theorem mem_waiting_take {stop : Nat} :
    position ∈ (nesting.matching (tokens.take stop)).waiting ↔
      position < stop ∧ StandsAt tokens position nesting.opener ∧
        ∀ pair ∈ (nesting.matching tokens).pairs, pair.1 = position → stop ≤ pair.2 := by
  rw [(nesting.sound _).waits_iff]
  constructor
  · rintro ⟨stands, unpaired⟩
    have before : position < stop := stands.lt_length.trans_le (List.length_take_le _ _)
    refine ⟨before, (standsAt_take before).mp stands, ?_⟩
    intro pair member isPosition
    by_contra early
    exact unpaired pair (mem_pairs_take.mpr ⟨member, by omega⟩) isPosition
  · rintro ⟨before, stands, unpaired⟩
    refine ⟨(standsAt_take before).mpr stands, ?_⟩
    intro pair member isPosition
    obtain ⟨member, early⟩ := mem_pairs_take.mp member
    exact absurd early (Nat.not_lt.mpr (unpaired pair member isPosition))

/-- The number of tokens that count when the token at a position records its depth: a
closer counts itself. -/
def acted (nesting : Nesting) (token : Token) (position : Nat) : Nat :=
  if token.text = nesting.closer then position + 1 else position

theorem acted_cases (nesting : Nesting) (token : Token) (position : Nat) :
    nesting.acted token position = position ∨ nesting.acted token position = position + 1 := by
  unfold acted
  split
  · exact Or.inr rfl
  · exact Or.inl rfl

theorem length_waiting_acted (found : tokens[position]? = some token) :
    (nesting.matching (tokens.take (nesting.acted token position))).waiting.length =
      if token.text = nesting.closer then
        (nesting.matching (tokens.take position)).waiting.length - 1
      else (nesting.matching (tokens.take position)).waiting.length := by
  unfold acted
  split
  · next closes =>
      have notOpener : token.text ≠ nesting.opener := closes ▸ nesting.closer_ne_opener
      rw [List.take_add_one, found, Option.toList_some, length_waiting_concat, if_neg notOpener,
        if_pos closes]
  · rfl

/-- The openers that wait are those without a partner. -/
theorem length_unmatchedAt (found : tokens[position]? = some token) :
    (nesting.unmatchedAt tokens position).length =
      (nesting.matching (tokens.take (nesting.acted token position))).waiting.length := by
  have stands : ∀ text, StandsAt tokens position text ↔ token.text = text := by
    intro text
    rw [StandsAt, found, Option.map_some, Option.some.injEq]
  have sameMembers : ∀ place, place ∈ nesting.unmatchedAt tokens position ↔
      place ∈ (nesting.matching (tokens.take (nesting.acted token position))).waiting := by
    intro place
    rw [mem_waiting_take, unmatchedAt, List.mem_filter, List.mem_range, decide_eq_true_iff, acted]
    split
    · next closes =>
        -- A closer is no opener, and its own pair counts.
        have other : StandsAt tokens place nesting.opener → place ≠ position := by
          rintro opens rfl
          exact nesting.closer_ne_opener (closes.symm.trans ((stands _).mp opens))
        constructor
        · rintro ⟨before, opens, unpaired⟩
          exact ⟨by omega, opens, unpaired⟩
        · rintro ⟨before, opens, unpaired⟩
          have notSame := other opens
          exact ⟨by omega, opens, unpaired⟩
    · next notCloser =>
        have noPair : ∀ pair ∈ (nesting.matching tokens).pairs, pair.2 ≠ position := by
          rintro pair member rfl
          exact notCloser ((stands _).mp ((nesting.sound tokens).paired pair member).2.1)
        refine and_congr_right fun _ => and_congr_right fun _ => ?_
        refine forall_congr' fun pair => forall_congr' fun member => forall_congr' fun _ => ?_
        have notSame := noPair pair member
        omega
  have perm : (nesting.unmatchedAt tokens position).Perm
      (nesting.matching (tokens.take (nesting.acted token position))).waiting :=
    (List.perm_ext_iff_of_nodup (List.nodup_range.filter _) (nesting.sound _).nodup).mpr sameMembers
  exact perm.length_eq

section Pairs

variable {opener closer : Nat}

/-- When the closer comes, its opener waits on top of what waited before it. -/
theorem waiting_take_closer (pair : (opener, closer) ∈ (nesting.matching tokens).pairs) :
    (nesting.matching (tokens.take closer)).waiting =
      opener :: (nesting.matching (tokens.take opener)).waiting := by
  obtain ⟨before, -, waited⟩ := (nesting.sound tokens).paired _ pair
  have sound := nesting.sound (tokens.take closer)
  obtain ⟨rest, isWaiting⟩ := List.head?_eq_some_iff.mp waited
  have below := sound.nested opener (isWaiting ▸ List.mem_cons_self)
  have nodup := sound.nodup
  have isTake : (tokens.take closer).take opener = tokens.take opener := by
    rw [List.take_take, Nat.min_eq_left before.le]
  rw [isWaiting, isTake, List.suffix_cons_iff] at below
  rw [isWaiting] at nodup ⊢
  refine (below.resolve_right fun deeper => ?_).symm
  exact (List.nodup_cons.mp nodup).1 (deeper.subset List.mem_cons_self)

theorem opener_mem_waiting (pair : (opener, closer) ∈ (nesting.matching tokens).pairs) :
    opener ∈ (nesting.matching (tokens.take closer)).waiting := by
  rw [waiting_take_closer pair]
  exact List.mem_cons_self

theorem exists_of_mem_pairs (pair : (opener, closer) ∈ (nesting.matching tokens).pairs) :
    ∃ first last, tokens[opener]? = some first ∧ first.text = nesting.opener ∧
      tokens[closer]? = some last ∧ last.text = nesting.closer := by
  obtain ⟨-, stands, -⟩ := mem_waiting_take.mp (opener_mem_waiting pair)
  obtain ⟨first, isFirst, opens⟩ := standsAt_iff.mp stands
  obtain ⟨last, isLast, closes⟩ := standsAt_iff.mp ((nesting.sound tokens).paired _ pair).2.1
  exact ⟨first, last, isFirst, opens, isLast, closes⟩

/-- Between the two, the opener waits on top of what waited before it. -/
theorem length_waiting_lt (pair : (opener, closer) ∈ (nesting.matching tokens).pairs) {stop : Nat}
    (behind : opener < stop) (before : stop ≤ closer) :
    (nesting.matching (tokens.take opener)).waiting.length <
      (nesting.matching (tokens.take stop)).waiting.length := by
  obtain ⟨-, stands, unpaired⟩ := mem_waiting_take.mp (opener_mem_waiting pair)
  have waits : opener ∈ (nesting.matching (tokens.take stop)).waiting :=
    mem_waiting_take.mpr ⟨behind, stands, fun pair member isOpener =>
      before.trans (unpaired pair member isOpener)⟩
  have below := ((nesting.sound (tokens.take stop)).nested opener waits).length_le
  rwa [List.take_take, Nat.min_eq_left behind.le] at below

end Pairs

/-- The brackets of one kind, in order. -/
def marks (nesting : Nesting) (tokens : List Token) : List String :=
  (tokens.map Token.text).filter fun text => text = nesting.opener ∨ text = nesting.closer

/-- How many openers wait behind some brackets of one kind. -/
def height (nesting : Nesting) (marks : List String) : Nat :=
  marks.foldl (fun height mark => if mark = nesting.opener then height + 1 else height - 1) 0

theorem length_waiting_eq_height (nesting : Nesting) (tokens : List Token) :
    (nesting.matching tokens).waiting.length = nesting.height (nesting.marks tokens) := by
  induction tokens using List.reverseRecOn with
  | nil => rfl
  | append_singleton tokens token ih =>
      have isMarks : nesting.marks (tokens ++ [token]) = nesting.marks tokens ++
          if token.text = nesting.opener ∨ token.text = nesting.closer then [token.text]
          else [] := by
        simp [marks, List.filter_cons]
      rw [length_waiting_concat, isMarks, ih]
      by_cases opens : token.text = nesting.opener
      · rw [if_pos opens, if_pos (Or.inl opens), height, height, List.foldl_concat, if_pos opens]
      · rw [if_neg opens]
        by_cases closes : token.text = nesting.closer
        · rw [if_pos closes, if_pos (Or.inr closes), height, height, List.foldl_concat,
            if_neg opens]
        · rw [if_neg closes, if_neg (not_or.mpr ⟨opens, closes⟩), List.append_nil]

end Prefixes

section Scanning

variable {nesting : Nesting}

theorem counter_beforeToken (nesting : Nesting) (state : ScanState) (text : String) :
    nesting.counter (state.beforeToken text) =
      if text = nesting.closer then nesting.counter state - 1 else nesting.counter state := by
  rw [ScanState.beforeToken]
  by_cases isParen : text = ")"
  · subst isParen
    cases nesting <;> rfl
  · rw [if_neg isParen]
    by_cases isBrace : text = "\x7d"
    · subst isBrace
      cases nesting <;> rfl
    · have notCloser : text ≠ nesting.closer := by cases nesting <;> assumption
      rw [if_neg isBrace, if_neg notCloser]

theorem counter_afterToken (nesting : Nesting) (state : ScanState) (text : String) :
    nesting.counter (state.afterToken text) =
      if text = nesting.opener then nesting.counter state + 1 else nesting.counter state := by
  rw [ScanState.afterToken]
  by_cases isParen : text = "("
  · subst isParen
    cases nesting <;> rfl
  · rw [if_neg isParen]
    by_cases isBrace : text = "\x7b"
    · subst isBrace
      cases nesting <;> rfl
    · have notOpener : text ≠ nesting.opener := by cases nesting <;> assumption
      rw [if_neg isBrace, if_neg notOpener]

theorem counter_down (nesting : Nesting) (state : ScanState) (lines : Nat) :
    nesting.counter (state.down lines) = nesting.counter state := by
  cases nesting <;> rfl

/-- The counter goes as the stack does. -/
theorem counter_across (nesting : Nesting) (state : ScanState) (gap : List Filler)
    (text : List Char) :
    nesting.counter (state.across gap text) =
      if String.ofList text = nesting.opener then nesting.counter state + 1
      else if String.ofList text = nesting.closer then nesting.counter state - 1
      else nesting.counter state := by
  rw [ScanState.across, counter_down, counter_afterToken, counter_beforeToken, ScanState.skip,
    counter_down]
  by_cases opens : String.ofList text = nesting.opener
  · rw [if_pos opens, if_pos opens, if_neg (opens ▸ nesting.closer_ne_opener.symm)]
  · rw [if_neg opens, if_neg opens]

theorem depth_ofLexeme (nesting : Nesting) (state : ScanState) (gap : List Filler)
    (lexeme : Lexeme) :
    nesting.depth (Token.ofLexeme (state.skip gap) gap lexeme) =
      if String.ofList lexeme.text = nesting.closer then nesting.counter state - 1
      else nesting.counter state := by
  have recorded : nesting.depth (Token.ofLexeme (state.skip gap) gap lexeme) =
      nesting.counter ((state.skip gap).beforeToken (String.ofList lexeme.text)) := by
    cases nesting <;> rfl
  rw [recorded, counter_beforeToken, ScanState.skip, counter_down]

/-- Tokens that are placed behind others record how many openers wait. -/
theorem depth_place {state : ScanState} {items : List (List Filler × Lexeme)} {seen : List Token}
    (agrees : nesting.counter state = (nesting.matching seen).waiting.length) {position : Nat}
    {token : Token} (found : (Token.place state items).1[position]? = some token) :
    nesting.depth token =
      (nesting.matching ((seen ++ (Token.place state items).1).take
        (nesting.acted token (seen.length + position)))).waiting.length := by
  induction items generalizing state seen position with
  | nil => simp [Token.place] at found
  | cons item items ih =>
      obtain ⟨gap, lexeme⟩ := item
      have goesOn := nesting.length_waiting_concat seen
        (Token.ofLexeme (state.skip gap) gap lexeme)
      rw [← agrees] at goesOn
      rw [Token.place_cons] at found ⊢
      -- What was seen grows by the token, and the counter goes along.
      cases position with
      | zero =>
          cases found
          have here : (seen ++ Token.ofLexeme (state.skip gap) gap lexeme ::
              (Token.place (state.across gap lexeme.text) items).1)[seen.length + 0]? =
                some (Token.ofLexeme (state.skip gap) gap lexeme) := by simp
          rw [length_waiting_acted here, depth_ofLexeme, agrees, Nat.add_zero, List.take_left]
          rfl
      | succ position =>
          rw [List.getElem?_cons_succ] at found
          have later := ih ((counter_across nesting state gap lexeme.text).trans goesOn.symm) found
          rw [List.append_assoc, List.length_append] at later
          rw [later, List.length_singleton, Nat.add_assoc, Nat.add_comm 1]
          rfl

end Scanning

end Nesting

namespace Token

theorem depth_scan (nesting : Nesting) {source : String} {position : Nat} {token : Token}
    (found : (scan source)[position]? = some token) :
    nesting.depth token =
      (nesting.matching ((scan source).take (nesting.acted token position))).waiting.length := by
  have atStart : nesting.counter {} = (nesting.matching []).waiting.length := by
    cases nesting <;> rfl
  rw [scan_eq] at found ⊢
  have placed := Nesting.depth_place atStart found
  rwa [List.length_nil, Nat.zero_add] at placed

section Brackets

variable {nesting : Nesting} {source : String} {position : Nat} {token : Token}

theorem depth_opener (found : (scan source)[position]? = some token)
    (opens : token.text = nesting.opener) :
    nesting.depth token = (nesting.matching ((scan source).take position)).waiting.length := by
  have notCloser : token.text ≠ nesting.closer := opens ▸ nesting.closer_ne_opener.symm
  rw [depth_scan nesting found, Nesting.length_waiting_acted found, if_neg notCloser]

theorem depth_closer (found : (scan source)[position]? = some token)
    (closes : token.text = nesting.closer) :
    nesting.depth token =
      (nesting.matching ((scan source).take position)).waiting.length - 1 := by
  rw [depth_scan nesting found, Nesting.length_waiting_acted found, if_pos closes]

end Brackets

/-- The tokens are the lexemes of the text.  The depth of a token is the number of openers in
front of it that are unmatched when brackets of that kind are matched by a stack; a closer
does not count its own opener.  So the two brackets of a pair have one depth, every token
between them has a greater one, and brackets of the other kind do not matter. -/
theorem depth_is_nesting (nesting : Nesting) (source : String) :
    (scan source).map Token.lexeme = (LexedText.ofChars source.toList).lexemes ∧
    (∀ position token, (scan source)[position]? = some token →
      nesting.depth token = (nesting.unmatchedAt (scan source) position).length) ∧
    (∀ opener closer, (opener, closer) ∈ (nesting.matching (scan source)).pairs →
      ∃ first last, (scan source)[opener]? = some first ∧ first.text = nesting.opener ∧
        (scan source)[closer]? = some last ∧ last.text = nesting.closer ∧
        opener < closer ∧ nesting.depth first = nesting.depth last ∧
        ∀ position token, opener < position → position < closer →
          (scan source)[position]? = some token → nesting.depth first < nesting.depth token) ∧
    ∀ source' position position' token token',
      (scan source)[position]? = some token → (scan source')[position']? = some token' →
      nesting.marks ((scan source).take position) =
        nesting.marks ((scan source').take position') →
      (token.text = nesting.closer ↔ token'.text = nesting.closer) →
      nesting.depth token = nesting.depth token' := by
  refine ⟨lexemes_scan source, ?_, ?_, ?_⟩
  · intro position token found
    rw [Nesting.length_unmatchedAt found, depth_scan nesting found]
  · intro opener closer pair
    obtain ⟨first, last, isFirst, opens, isLast, closes⟩ := Nesting.exists_of_mem_pairs pair
    have before := ((nesting.sound _).paired _ pair).1
    refine ⟨first, last, isFirst, opens, isLast, closes, before, ?_, ?_⟩
    · rw [depth_opener isFirst opens, depth_closer isLast closes, Nesting.waiting_take_closer pair,
        List.length_cons, Nat.add_sub_cancel]
    · intro position token behind inside found
      rw [depth_opener isFirst opens, depth_scan nesting found]
      have acts := nesting.acted_cases token position
      exact Nesting.length_waiting_lt pair (by omega) (by omega)
  · intro source' position position' token token' found found' sameMarks sameKind
    rw [depth_scan nesting found, depth_scan nesting found', Nesting.length_waiting_acted found,
      Nesting.length_waiting_acted found', Nesting.length_waiting_eq_height,
      Nesting.length_waiting_eq_height, sameMarks]
    simp only [sameKind]

end Token

end ShaderPipeline
