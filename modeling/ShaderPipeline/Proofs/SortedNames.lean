import ShaderPipeline.Proofs.Text.ByteOrder
import ShaderPipeline.SortedNames

/-!
# Searching sorted names

Sorting keeps the entries and puts their names in order.  Halving then leaves the
last position whose name is not behind the name looked for, so a name is found
exactly if an entry has it, also where several entries share it.
-/

namespace ShaderPipeline.SortedNames

variable {α : Type} {nameOf : α → String} {entries : List α} {name : String}

def Sorted (nameOf : α → String) (entries : List α) : Prop :=
  entries.Pairwise fun first second => nameOf first ≤ nameOf second

theorem sort_perm (nameOf : α → String) (entries : List α) :
    (sort nameOf entries).Perm entries :=
  List.mergeSort_perm entries _

theorem sorted_sort (nameOf : α → String) (entries : List α) :
    Sorted nameOf (sort nameOf entries) := by
  have inOrder : (sort nameOf entries).Pairwise fun first second =>
      decide (nameOf first ≤ nameOf second) = true := by
    apply List.pairwise_mergeSort
    · intro first second third before behind
      simp only [decide_eq_true_eq] at before behind ⊢
      exact String.le_trans before behind
    · intro first second
      simpa using String.le_total (nameOf first) (nameOf second)
  exact inOrder.imp of_decide_eq_true

theorem Sorted.bytes (sorted : Sorted nameOf entries) :
    entries.Pairwise fun first second =>
      Text.bytes (nameOf first) ≤ Text.bytes (nameOf second) :=
  sorted.imp fun order => (Text.le_iff_bytes _ _).mp order

theorem Sorted.le (sorted : Sorted nameOf entries) {position later : Nat}
    (order : position ≤ later) {first second : α} (isFirst : entries[position]? = some first)
    (isSecond : entries[later]? = some second) : nameOf first ≤ nameOf second := by
  obtain ⟨inside, rfl⟩ := List.getElem?_eq_some_iff.mp isFirst
  obtain ⟨insideToo, rfl⟩ := List.getElem?_eq_some_iff.mp isSecond
  rcases Nat.eq_or_lt_of_le order with rfl | before
  · exact String.le_refl _
  · exact List.pairwise_iff_getElem.mp sorted position later inside insideToo before

theorem isBehind_eq_true_iff {position : Nat} :
    isBehind nameOf entries name position = true ↔
      ∀ entry, entries[position]? = some entry → name < nameOf entry := by
  unfold isBehind
  split
  · next entry found =>
      rw [decide_eq_true_iff, found]
      exact ⟨fun order _ same => Option.some.inj same ▸ order, fun behind => behind entry rfl⟩
  · next none => simp [none]

theorem isBehind_eq_false_iff {position : Nat} :
    isBehind nameOf entries name position = false ↔
      ∃ entry, entries[position]? = some entry ∧ nameOf entry ≤ name := by
  unfold isBehind
  split
  · next entry found =>
      rw [decide_eq_false_iff_not, String.not_lt]
      simp [found]
  · next none => simp [none]

/-- From a position on, all names are behind `name`. -/
def BehindFrom (nameOf : α → String) (entries : List α) (name : String) (position : Nat) : Prop :=
  ∀ later, position ≤ later → isBehind nameOf entries name later = true

theorem Sorted.behindFrom (sorted : Sorted nameOf entries) {position : Nat}
    (behind : isBehind nameOf entries name position = true) :
    BehindFrom nameOf entries name position := by
  intro later order
  rw [isBehind_eq_true_iff] at behind ⊢
  intro entry found
  have inside := (List.getElem?_eq_some_iff.mp found).1
  have isFirst := List.getElem?_eq_getElem (Nat.lt_of_le_of_lt order inside)
  have ordered := sorted.le order isFirst found
  exact String.not_le.mp fun back =>
    String.not_le.mpr (behind _ isFirst) (String.le_trans ordered back)

theorem behindFrom_length : BehindFrom nameOf entries name entries.length := by
  intro later order
  rw [isBehind_eq_true_iff, List.getElem?_eq_none order]
  exact fun entry found => nomatch found

/-- Halving ends at the last position whose name is not behind, or at the first one. -/
theorem Sorted.narrow_spec (sorted : Sorted nameOf entries) {base size : Nat} (some_ : 0 < size)
    (reached : base = 0 ∨ isBehind nameOf entries name base = false)
    (behind : BehindFrom nameOf entries name (base + size)) :
    (narrow nameOf entries name base size = 0 ∨
        isBehind nameOf entries name (narrow nameOf entries name base size) = false) ∧
      BehindFrom nameOf entries name (narrow nameOf entries name base size + 1) := by
  fun_induction narrow nameOf entries name base size with
  | case1 base size more isBehind ih =>
      refine ih (by omega) reached fun later order => ?_
      exact sorted.behindFrom isBehind later (by omega)
  | case2 base size more notBehind ih =>
      refine ih (by omega) (Or.inr (Bool.eq_false_iff.mpr notBehind)) ?_
      have sameEnd : base + size / 2 + (size - size / 2) = base + size := by omega
      rwa [sameEnd]
  | case3 base size one =>
      have isOne : size = 1 := by omega
      subst isOne
      exact ⟨reached, behind⟩

theorem position?_eq_some_iff {position : Nat} :
    position? nameOf entries name = some position ↔
      position = narrow nameOf entries name 0 entries.length ∧
        ∃ entry, entries[position]? = some entry ∧ nameOf entry = name := by
  unfold position?
  dsimp only
  generalize narrow nameOf entries name 0 entries.length = reached
  constructor
  · intro found
    split at found
    · next entry isEntry =>
        split at found
        · next isName =>
            cases found
            exact ⟨rfl, entry, isEntry, isName⟩
        · cases found
    · cases found
  · rintro ⟨rfl, entry, isEntry, isName⟩
    simp [isEntry, isName]

theorem Sorted.exists_position? (sorted : Sorted nameOf entries) {entry : α}
    (member : entry ∈ entries) :
    ∃ position, position? nameOf entries (nameOf entry) = some position := by
  have behind : BehindFrom nameOf entries (nameOf entry) (0 + entries.length) := by
    rw [Nat.zero_add]
    exact behindFrom_length
  obtain ⟨reached, behind⟩ :=
    sorted.narrow_spec (List.length_pos_of_mem member) (Or.inl rfl) behind
  refine ⟨_, position?_eq_some_iff.mpr ⟨rfl, ?_⟩⟩
  generalize narrow nameOf entries (nameOf entry) 0 entries.length = position at reached behind
  obtain ⟨index, isEntry⟩ := List.mem_iff_getElem?.mp member
  -- The entry itself is not behind its name, so halving went at least that far.
  have notPast : index ≤ position := by
    refine Nat.not_lt.mp fun past => ?_
    exact String.lt_irrefl _ (isBehind_eq_true_iff.mp (behind index past) entry isEntry)
  rcases Nat.eq_or_lt_of_le notPast with rfl | before
  · exact ⟨entry, isEntry, rfl⟩
  · obtain ⟨other, isOther, notBehind⟩ :=
      isBehind_eq_false_iff.mp (reached.resolve_left (by omega))
    exact ⟨other, isOther, String.le_antisymm notBehind (sorted.le notPast isEntry isOther)⟩

theorem Sorted.position?_eq_none_iff (sorted : Sorted nameOf entries) :
    position? nameOf entries name = none ↔ ∀ entry ∈ entries, nameOf entry ≠ name := by
  constructor
  · rintro missing entry member rfl
    obtain ⟨position, found⟩ := sorted.exists_position? member
    rw [missing] at found
    cases found
  · intro noEntry
    cases found : position? nameOf entries name with
    | none => rfl
    | some position =>
        obtain ⟨-, entry, isEntry, isName⟩ := position?_eq_some_iff.mp found
        exact absurd isName (noEntry entry (List.mem_of_getElem? isEntry))

end ShaderPipeline.SortedNames
