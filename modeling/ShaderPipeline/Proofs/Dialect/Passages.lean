import ShaderPipeline.Dialect
import ShaderPipeline.Proofs.Dialect.Recasting

/-!
# The passages of a recast stage

A recast stage is a sequence of passages: words that stand outside declarations, and
declarations with the storage words that their version of the language calls for.
The slots that are recorded are those of the declarations that have a semantic, in
the order in which they are written.
-/

namespace ShaderPipeline.Dialect

/-- A stretch of a recast stage, behind its layout. -/
inductive Passage where
  | word (layout text : String)
  | declared (layout : String) (direction : Direction) (slot : InterfaceSlot)
  /-- A declaration that could not be read leaves its layout behind. -/
  | skipped (layout : String)

/-- A storage word behind the location of its slot. -/
def locatedWords (location : Option UInt32) (word : String) : String :=
  match location with
  | some number => "layout (location = " ++ Nat.repr number.toNat ++ ") " ++ word
  | none => word

/-- The storage words of a recorded declaration.  The language has no words for both
directions before version 130, and no locations before version 151. -/
def recordedWords (version : UInt32) (location : Option UInt32) : Stage → String
  | .vertex =>
      if version < 130 then "attribute "
      else if version ≤ 150 then "in "
      else locatedWords location "in "
  | .fragment =>
      if version < 130 then ""
      else if version ≤ 150 then "out "
      else locatedWords location "out "

/-- The storage words of a declaration that is handed from stage to stage. -/
def forwardedWords (version : UInt32) : Direction → String
  | .input => if version < 130 then "varying " else "in "
  | .output => if version < 130 then "varying " else "out "

/-- A slot as it is declared behind its storage words. -/
def declaredText (slot : InterfaceSlot) : String :=
  slot.type ++ " " ++ slot.name ++ slot.arraySuffix ++ ";"

namespace Passage

def text (version : UInt32) (stage : Stage) : Passage → String
  | .word layout text => layout ++ text
  | .declared layout direction slot =>
      layout ++ ((if stage.records direction then recordedWords version slot.location stage
        else forwardedWords version direction) ++ declaredText slot)
  | .skipped layout => layout

def recorded? (stage : Stage) : Passage → Option InterfaceSlot
  | .declared _ direction slot => if stage.records direction then some slot else none
  | _ => none

def ofDeclaration (layout : String) (direction : Direction) (declaration : Declaration) :
    Passage :=
  match declaration.slot with
  | some slot => .declared layout direction slot
  | none => .skipped layout

end Passage

/-- The passages of some tokens, behind the declarations of `recorded`. -/
def passages (caps : Capabilities) (stage : Stage) (recorded : List InterfaceSlot)
    (tokens : List Token) : List Passage :=
  match tokens with
  | [] => []
  | token :: rest =>
      match token.declares? with
      | some direction =>
          let declaration := Declaration.parse token.line (stage.records direction) rest
          let here := Passage.ofDeclaration token.separator direction declaration
          here :: passages caps stage (recorded ++ (here.recorded? stage).toList)
            declaration.rest
      | none =>
          .word token.separator (tokenText caps stage recorded token) ::
            passages caps stage recorded rest
termination_by tokens.length
decreasing_by
  · have shorter := Declaration.length_parse_rest_le token.line (stage.records direction) rest
    simp only [List.length_cons]
    omega
  · simp

def passagesOf (caps : Capabilities) (stage : Stage) (source : String) : List Passage :=
  passages caps stage [] (Token.scan source)

theorem locatedQualifier_eq (direction : Direction) (location : Option UInt32) :
    locatedQualifier direction location = locatedWords location (direction.keyword ++ " ") := by
  cases location with
  | none => rfl
  | some number => exact String.append_assoc

theorem storageQualifier_eq (caps : Capabilities) (stage : Stage) (direction : Direction)
    (slot : InterfaceSlot) :
    storageQualifier caps stage direction slot =
      if stage.records direction then recordedWords caps.version slot.location stage
      else forwardedWords caps.version direction := by
  have legacy : caps.usesLegacyStorage = true ↔ caps.version < 130 := decide_eq_true_iff
  have binds : caps.bindsAttributes = true ↔ caps.version ≤ 150 := decide_eq_true_iff
  have writes : caps.writesLocations = true ↔ ¬ caps.version ≤ 150 := by
    rw [UInt32.not_le]
    exact decide_eq_true_iff
  cases stage <;> cases direction <;>
    simp only [storageQualifier, Stage.records, recordedWords, forwardedWords, legacy, binds,
      writes, locatedQualifier_eq, if_true, Bool.false_eq_true, if_false, ite_not]
  · rfl
  · rfl

/-- What a declaration contributes is the text of its passage and its slot. -/
theorem ofDeclaration_eq (caps : Capabilities) (stage : Stage) (direction : Direction)
    (layout : String) (declaration : Declaration) :
    (Body.ofDeclaration caps stage direction layout declaration).text =
        (Passage.ofDeclaration layout direction declaration).text caps.version stage ∧
      (Body.ofDeclaration caps stage direction layout declaration).slots =
        ((Passage.ofDeclaration layout direction declaration).recorded? stage).toList := by
  obtain ⟨slot, problem, rest⟩ := declaration
  cases slot with
  | none => simp [Body.ofDeclaration, Body.text, Passage.ofDeclaration, Passage.text, Passage.recorded?]
  | some slot =>
      constructor
      · simp [Body.ofDeclaration, Body.text, Passage.ofDeclaration, Passage.text,
          declarationText, declaredText, storageQualifier_eq, String.append_assoc]
      · simp only [Body.ofDeclaration, Passage.ofDeclaration, Passage.recorded?]
        split <;> rfl

/-- A recast stage is the text of its passages. -/
theorem ofTokens_eq (caps : Capabilities) (stage : Stage) (recorded : List InterfaceSlot)
    (tokens : List Token) :
    (Body.ofTokens caps stage recorded tokens).text =
        String.join ((passages caps stage recorded tokens).map (Passage.text caps.version stage)) ∧
      (Body.ofTokens caps stage recorded tokens).slots =
        (passages caps stage recorded tokens).filterMap (Passage.recorded? stage) := by
  fun_induction passages caps stage recorded tokens with
  | case1 recorded => simp [Body.ofTokens, Body.text]
  | case2 recorded token rest direction declares declaration here ih =>
      obtain ⟨isText, isSlots⟩ :=
        ofDeclaration_eq caps stage direction token.separator declaration
      obtain ⟨laterText, laterSlots⟩ := ih
      rw [Body.ofTokens_declares declares]
      constructor
      · rw [Body.text_append, isSlots, isText, laterText, List.map_cons, String.join_cons]
      · dsimp only [Body.append]
        rw [isSlots, laterSlots, List.filterMap_cons]
        cases here.recorded? stage <;> rfl
  | case3 recorded token rest declares ih =>
      obtain ⟨laterText, laterSlots⟩ := ih
      rw [Body.ofTokens_kept declares]
      constructor
      · rw [Body.text_append, laterText, List.map_cons, String.join_cons]
        simp [Body.text, Passage.text]
      · dsimp only [Body.append]
        rw [laterSlots]
        rfl

/-- A stage that a target compiles, and the slots that were recorded in it, are read off the
passages of its source.  An absent stage has neither. -/
structure Emitted (caps : Capabilities) (stage : Stage) (source text : Option String)
    (slots : List InterfaceSlot) : Prop where
  text_eq : text = source.map fun source => header caps stage ++
    String.join ((passagesOf caps stage source).map (Passage.text caps.version stage))
  slots_eq : slots = ((source.map (passagesOf caps stage)).getD []).filterMap
    (Passage.recorded? stage)

theorem emitted_recastStage (caps : Capabilities) (stage : Stage) (source : Option String) :
    Emitted caps stage source ((source.map (recastStage caps stage)).map (·.text))
      (((source.map (recastStage caps stage)).map (·.slots)).getD []) := by
  cases source with
  | none => exact ⟨rfl, rfl⟩
  | some source =>
      obtain ⟨isText, isSlots⟩ := ofTokens_eq caps stage [] (Token.scan source)
      constructor
      · exact congrArg (fun text => some (header caps stage ++ text)) isText
      · exact isSlots

end ShaderPipeline.Dialect
