import ShaderPipeline.Proofs.Software.Source
import ShaderPipeline.Proofs.Token.Partition

/-!
# What is left of a text without its comments

Every character of a text stays or goes when its comments are dropped, and a block
comment leaves a blank.  A comment loses all but its line feeds, so that no line feed
goes, and a character that stays is still on the line it was on.
-/

namespace ShaderPipeline.Software

/-- What becomes of a character when comments are dropped. -/
inductive Residue where
  | kept (character : Char)
  | dropped (character : Char)
  /-- The blank that a block comment leaves. -/
  | blank
deriving Repr, DecidableEq

namespace Residue

/-- The part of the text. -/
def original : Residue → List Char
  | .kept character => [character]
  | .dropped character => [character]
  | .blank => []

/-- What is left of it. -/
def remaining : Residue → List Char
  | .kept character => [character]
  | .dropped _ => []
  | .blank => [' ']

/-- A comment loses all but its line feeds. -/
def ofComment (character : Char) : Residue :=
  if character = '\n' then .kept character else .dropped character

end Residue

/-- How a text loses its comments.  A slash before a slash or a star starts one. -/
inductive Uncommented : List Char → List Residue → Prop
  | nil : Uncommented [] []
  | code {character : Char} {rest : List Char} {residues : List Residue}
      (noComment : character = '/' → rest.head? ≠ some '/' ∧ rest.head? ≠ some '*')
      (behind : Uncommented rest residues) :
      Uncommented (character :: rest) (.kept character :: residues)
  | lineComment {body rest : List Char} {residues : List Residue}
      (fits : (Filler.lineComment body).Fits rest) (behind : Uncommented rest residues) :
      Uncommented ((Filler.lineComment body).text ++ rest)
        ((Filler.lineComment body).text.map Residue.ofComment ++ residues)
  | blockComment {body rest : List Char} {closed : Bool} {residues : List Residue}
      (fits : (Filler.blockComment body closed).Fits rest) (behind : Uncommented rest residues) :
      Uncommented ((Filler.blockComment body closed).text ++ rest)
        ((Filler.blockComment body closed).text.map Residue.ofComment ++ .blank :: residues)

/-- Every text loses its comments in this way. -/
theorem exists_uncommented (text : List Char) : ∃ residues, Uncommented text residues := by
  induction isLength : text.length using Nat.strongRecOn generalizing text with
  | ind length ih =>
      subst isLength
      cases text with
      | nil => exact ⟨[], .nil⟩
      | cons character rest =>
          by_cases noComment :
              character = '/' → rest.head? ≠ some '/' ∧ rest.head? ≠ some '*'
          · obtain ⟨residues, behind⟩ := ih _ (Nat.lt_succ_self _) rest rfl
            exact ⟨_, .code noComment behind⟩
          · rw [Classical.not_imp, not_and_or, not_not, not_not] at noComment
            obtain ⟨rfl, starts | starts⟩ := noComment
            · obtain ⟨tail, rfl⟩ := List.head?_eq_some_iff.mp starts
              have found : Filler.next? ('/' :: '/' :: tail) = some (_, _) := rfl
              obtain ⟨residues, behind⟩ := ih _ (Filler.length_lt_of_next? found) _ rfl
              obtain ⟨isText, fits⟩ := Filler.next?_eq_some_iff.mp found
              exact ⟨_, isText ▸ Uncommented.lineComment fits behind⟩
            · obtain ⟨tail, rfl⟩ := List.head?_eq_some_iff.mp starts
              have found : Filler.next? ('/' :: '*' :: tail) = some (_, _) := rfl
              obtain ⟨residues, behind⟩ := ih _ (Filler.length_lt_of_next? found) _ rfl
              obtain ⟨isText, fits⟩ := Filler.next?_eq_some_iff.mp found
              exact ⟨_, isText ▸ Uncommented.blockComment fits behind⟩

section Comments

theorem flatMap_original_ofComment (text : List Char) :
    (text.map Residue.ofComment).flatMap Residue.original = text := by
  have same : ∀ character, (Residue.ofComment character).original = [character] := by
    intro character
    unfold Residue.ofComment
    split <;> rfl
  simp [List.flatMap_map, same]

theorem flatMap_remaining_ofComment (text : List Char) :
    (text.map Residue.ofComment).flatMap Residue.remaining = text.filter (· == '\n') := by
  induction text with
  | nil => rfl
  | cons character text ih =>
      rw [List.map_cons, List.flatMap_cons, ih, List.filter_cons, Residue.ofComment]
      by_cases isFeed : character = '\n' <;> simp [isFeed, Residue.remaining]

theorem filter_lineComment {body : List Char} (oneLine : '\n' ∉ body) :
    (Filler.lineComment body).text.filter (· == '\n') = [] := by
  rw [List.filter_eq_nil_iff]
  intro character member isFeed
  rw [beq_iff_eq] at isFeed
  subst isFeed
  simp only [Filler.text, List.mem_cons, oneLine, or_false] at member
  rcases member with isSlash | isSlash <;> cases isSlash

theorem filter_blockComment (body : List Char) (closed : Bool) :
    (Filler.blockComment body closed).text.filter (· == '\n') = body.filter (· == '\n') := by
  cases closed <;> simp [Filler.text]

end Comments

namespace Uncommented

variable {text : List Char} {residues : List Residue}

theorem flatMap_original (uncommented : Uncommented text residues) :
    residues.flatMap Residue.original = text := by
  induction uncommented with
  | nil => rfl
  | code noComment behind ih =>
      rw [List.flatMap_cons, ih]
      rfl
  | lineComment fits behind ih => rw [List.flatMap_append, flatMap_original_ofComment, ih]
  | blockComment fits behind ih =>
      rw [List.flatMap_append, flatMap_original_ofComment, List.flatMap_cons, ih]
      rfl

theorem flatMap_remaining (uncommented : Uncommented text residues) :
    residues.flatMap Residue.remaining = stripComments text := by
  induction uncommented with
  | nil => rfl
  | code noComment behind ih =>
      rw [List.flatMap_cons, ih]
      exact (stripFrom_code_cons noComment).symm
  | lineComment fits behind ih =>
      have found := Filler.next?_eq_some_iff.mpr ⟨rfl, fits⟩
      rw [List.flatMap_append, flatMap_remaining_ofComment, ih, stripComments_of_filler found]
      cases fits with
      | lineComment oneLine ends => rw [filter_lineComment oneLine, stripped]
  | blockComment fits behind ih =>
      have found := Filler.next?_eq_some_iff.mpr ⟨rfl, fits⟩
      rw [List.flatMap_append, flatMap_remaining_ofComment, List.flatMap_cons, ih,
        stripComments_of_filler found, filter_blockComment, stripped, List.append_assoc]
      rfl

/-- No line feed goes. -/
theorem feed_stays (uncommented : Uncommented text residues) :
    Residue.dropped '\n' ∉ residues := by
  have inComment : ∀ body : List Char, Residue.dropped '\n' ∉ body.map Residue.ofComment := by
    intro body member
    obtain ⟨character, -, isDropped⟩ := List.mem_map.mp member
    unfold Residue.ofComment at isDropped
    split at isDropped
    · cases isDropped
    · next notFeed =>
        cases isDropped
        exact notFeed rfl
  induction uncommented with
  | nil => exact List.not_mem_nil
  | code noComment behind ih => simpa using ih
  | lineComment fits behind ih =>
      exact fun member => (List.mem_append.mp member).elim (inComment _) ih
  | blockComment fits behind ih =>
      intro member
      rcases List.mem_append.mp member with inside | later
      · exact inComment _ inside
      · exact ih (by simpa using later)

end Uncommented

/-- Where no line feed is lost, as many are left. -/
theorem count_remaining {residues : List Residue} (stays : Residue.dropped '\n' ∉ residues) :
    (residues.flatMap Residue.remaining).count '\n' =
      (residues.flatMap Residue.original).count '\n' := by
  induction residues with
  | nil => rfl
  | cons residue residues ih =>
      rw [List.mem_cons, not_or] at stays
      rw [List.flatMap_cons, List.flatMap_cons, List.count_append, List.count_append, ih stays.2]
      congr 1
      cases residue with
      | kept character => rfl
      | blank => rfl
      | dropped character =>
          have notFeed : character ≠ '\n' := fun isFeed => stays.1 (isFeed ▸ rfl)
          simp [Residue.remaining, Residue.original, notFeed]

theorem count_stripComments (text : List Char) :
    (stripComments text).count '\n' = text.count '\n' := by
  obtain ⟨residues, uncommented⟩ := exists_uncommented text
  rw [← uncommented.flatMap_remaining, count_remaining uncommented.feed_stays,
    uncommented.flatMap_original]

section Solid

/-- A character that no comment leaves behind. -/
def IsSolid (character : Char) : Prop :=
  character ≠ ' ' ∧ character ≠ '\n'

variable {character : Char} {text front back : List Char}

theorem mem_stripped_blockComment {body : List Char} {closed : Bool}
    (member : character ∈ stripped (.blockComment body closed)) : ¬ IsSolid character := by
  rcases List.mem_append.mp member with isFeed | isBlank
  · exact fun solid => solid.2 (by simpa using (List.mem_filter.mp isFeed).2)
  · exact fun solid => solid.1 (List.mem_singleton.mp isBlank)

/-- A solid character that is left cuts the text in two, outside comments. -/
theorem exists_of_stripComments_eq (solid : IsSolid character)
    (isLeft : stripComments text = front ++ character :: back) :
    ∃ before behind, text = before ++ character :: behind ∧ stripComments behind = back := by
  obtain ⟨residues, uncommented⟩ := exists_uncommented text
  induction uncommented generalizing front with
  | nil => simp [stripComments, stripFrom] at isLeft
  | @code first rest residues noComment _ ih =>
      have isStart : stripComments (first :: rest) = first :: stripComments rest :=
        stripFrom_code_cons noComment
      rw [isStart] at isLeft
      cases front with
      | nil =>
          obtain ⟨rfl, isBack⟩ := List.cons_eq_cons.mp isLeft
          exact ⟨[], rest, rfl, isBack⟩
      | cons second front =>
          obtain ⟨before, behind, rfl, isBack⟩ := ih (List.cons_eq_cons.mp isLeft).2
          exact ⟨first :: before, behind, rfl, isBack⟩
  | @lineComment body rest residues fits _ ih =>
      rw [stripComments_of_filler (Filler.next?_eq_some_iff.mpr ⟨rfl, fits⟩)] at isLeft
      obtain ⟨before, behind, rfl, isBack⟩ := ih isLeft
      exact ⟨_ ++ before, behind, (List.append_assoc _ _ _).symm, isBack⟩
  | @blockComment body rest closed residues fits _ ih =>
      rw [stripComments_of_filler (Filler.next?_eq_some_iff.mpr ⟨rfl, fits⟩)] at isLeft
      -- The character is not what the comment leaves, so it comes from behind it.
      have isRest : ∃ front, stripComments rest = front ++ character :: back := by
        rcases List.append_eq_append_iff.mp isLeft with
          ⟨front, -, isRest⟩ | ⟨inside, isStripped, isBack⟩
        · exact ⟨front, isRest⟩
        · cases inside with
          | nil => exact ⟨[], isBack.symm⟩
          | cons first inside =>
              obtain ⟨rfl, -⟩ := List.cons_eq_cons.mp isBack
              have member : character ∈ stripped (.blockComment body closed) := by
                rw [isStripped]
                exact List.mem_append_right _ List.mem_cons_self
              exact absurd solid (mem_stripped_blockComment member)
      obtain ⟨front, isRest⟩ := isRest
      obtain ⟨before, behind, rfl, isBack⟩ := ih isRest
      exact ⟨_ ++ before, behind, (List.append_assoc _ _ _).symm, isBack⟩

/-- What is left starts with a solid character only where the text does. -/
theorem exists_of_stripComments_eq_cons (solid : IsSolid character)
    (isLeft : stripComments text = character :: back) :
    ∃ behind, text = character :: behind ∧ stripComments behind = back := by
  obtain ⟨residues, uncommented⟩ := exists_uncommented text
  cases uncommented with
  | nil => cases isLeft
  | @code first rest residues noComment _ =>
      have isStart : stripComments (first :: rest) = first :: stripComments rest :=
        stripFrom_code_cons noComment
      obtain ⟨rfl, isBack⟩ := List.cons_eq_cons.mp (isStart.symm.trans isLeft)
      exact ⟨rest, rfl, isBack⟩
  | @lineComment body rest residues fits _ =>
      rw [stripComments_of_filler (Filler.next?_eq_some_iff.mpr ⟨rfl, fits⟩)] at isLeft
      cases fits with
      | lineComment oneLine ends =>
          rcases ends with rfl | isFeed
          · cases isLeft
          · obtain ⟨tail, rfl⟩ := List.head?_eq_some_iff.mp isFeed
            exact absurd (List.cons_eq_cons.mp isLeft).1.symm solid.2
  | @blockComment body rest closed residues fits _ =>
      rw [stripComments_of_filler (Filler.next?_eq_some_iff.mpr ⟨rfl, fits⟩)] at isLeft
      obtain ⟨first, tail, isStripped⟩ :
          ∃ first tail, stripped (.blockComment body closed) = first :: tail :=
        List.exists_cons_of_ne_nil (by simp [stripped])
      rw [isStripped] at isLeft
      obtain ⟨rfl, -⟩ := List.cons_eq_cons.mp isLeft
      exact absurd solid (mem_stripped_blockComment (isStripped ▸ List.mem_cons_self))

/-- A word that is left in one piece was in one piece. -/
theorem exists_of_stripComments_eq_append {word : List Char}
    (solid : ∀ character ∈ word, IsSolid character) (isLeft : stripComments text = word ++ back) :
    ∃ behind, text = word ++ behind ∧ stripComments behind = back := by
  induction word generalizing text with
  | nil => exact ⟨text, rfl, isLeft⟩
  | cons character word ih =>
      obtain ⟨solidFirst, solidRest⟩ := List.forall_mem_cons.mp solid
      obtain ⟨rest, rfl, isRest⟩ := exists_of_stripComments_eq_cons solidFirst isLeft
      obtain ⟨behind, rfl, isBack⟩ := ih solidRest isRest
      exact ⟨behind, rfl, isBack⟩

/-- A solid word that is left stands in the text, behind as many line feeds. -/
theorem exists_of_word_left {word : List Char} (notEmpty : word ≠ [])
    (solid : ∀ character ∈ word, IsSolid character)
    (isLeft : stripComments text = front ++ (word ++ back)) :
    ∃ before behind, text = before ++ (word ++ behind) ∧ stripComments behind = back ∧
      before.count '\n' = front.count '\n' := by
  obtain ⟨character, word, rfl⟩ := List.exists_cons_of_ne_nil notEmpty
  obtain ⟨solidFirst, solidRest⟩ := List.forall_mem_cons.mp solid
  have wholeFeeds := count_stripComments text
  rw [isLeft] at wholeFeeds
  obtain ⟨before, rest, rfl, isRest⟩ := exists_of_stripComments_eq solidFirst isLeft
  obtain ⟨behind, rfl, isBack⟩ := exists_of_stripComments_eq_append solidRest isRest
  refine ⟨before, behind, rfl, isBack, ?_⟩
  -- As many line feeds in all and as many behind the word: as many in front of it.
  have restFeeds := count_stripComments behind
  rw [isBack] at restFeeds
  simp only [List.count_append, List.count_cons] at wholeFeeds
  omega

end Solid

end ShaderPipeline.Software
