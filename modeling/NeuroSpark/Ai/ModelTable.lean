import NeuroSpark.Ai.Runtime
import NeuroSpark.Lib.Keyed
import NeuroSpark.Lib.Machine

/-!
# The model table as a map

A model is looked up by the whole name that a caller gives, but 15 characters of it are stored.
As long as the names of the models that are stored are no longer than that, the table is a map from
names to models.
-/

namespace NeuroSpark.Ai

inductive ModelOp where
  | load (name : CString) (kind version preferredBackend seed provenance : UInt32)
  | importPackage (path : CString) (file : PackageFile) (aliasName : CString)

namespace ModelOp

/-- What the call stores when there is room. -/
def args : ModelOp → Option StoreArgs
  | load name kind version preferredBackend seed provenance =>
    some (memoryArgs name kind version preferredBackend seed provenance)
  | importPackage path file aliasName => (readPackage path file aliasName).map (·.args path)

/-- The name of the model: the one given, or the one that an import without an alias reports. -/
def name : ModelOp → Option CString
  | load name .. => some name
  | importPackage path file aliasName =>
    (readPackage path file aliasName).map fun p =>
      if cString aliasName = [] then p.name.chars else cString aliasName

end ModelOp

/-- The state, and whether the call returns 1. -/
def modelStep (s : AiRuntime) : ModelOp → AiRuntime × Bool
  | .load name kind version preferredBackend seed provenance =>
    aiRuntimeLoadModel s name kind version preferredBackend seed provenance
  | .importPackage path file aliasName =>
    let r := aiRuntimeImportModelPackage s path file aliasName
    (r.1, r.2.isSome)

/-- A name under which a model is stored can be stored as it is. -/
def NameFits (s : AiRuntime) (op : ModelOp) : Prop :=
  ∀ a ∈ op.args, ∀ n ∈ op.name, a.Valid → (s.storeIndex a.name).isSome → n.length ≤ 15

/-- The names of the active entries are distinct. -/
def AiRuntime.Distinct (s : AiRuntime) : Prop :=
  Keyed.Distinct AiModelInfo.active (fun m => m.name.chars) s.models

/-- The table after a call is a map again: names are distinct and counted, and a model that was
stored is found, in the place of the one with its name. -/
structure KeepsMap (s : AiRuntime) (op : ModelOp) : Prop where
  distinct : (modelStep s op).1.Distinct
  counted : (modelStep s op).1.stats.modelCount.toNat = (modelStep s op).1.activeCount
  stored : (modelStep s op).2 = true → ∃ a ∈ op.args, ∃ n ∈ op.name, ∃ i,
    (modelStep s op).1.findModelIndex n = some i ∧
      (modelStep s op).1.models = Function.update s.models i a.entry ∧
      ∀ j, s.findModelIndex n = some j → j = i

lemma ModelName.copy_chars {name : CString} (hnul : 0 ∉ name) (hfits : name.length ≤ 15) :
    (ModelName.copy name).chars = name := by
  have hstring : cString name = name := by
    refine List.takeWhile_eq_self_iff.2 fun c hc => decide_eq_true fun heq => ?_
    rw [heq] at hc
    exact hnul hc
  change (cString name).take 15 = name
  rw [hstring, List.take_of_length_le hfits]

lemma NameValid.not_mem_zero {name : CString} (h : NameValid name) : 0 ∉ name := by
  intro hmem
  have hchar := h.2 0 hmem
  revert hchar
  decide

lemma name_of_readPackage {path : CString} {file : PackageFile} {aliasName : CString}
    {p : PackageContents} (h : readPackage path file aliasName = some p)
    (halias : cString aliasName ≠ []) : p.name = .copy aliasName := by
  obtain ⟨⟨packageBytes, hdr⟩, -, hread⟩ := Option.bind_eq_some_iff.1 h
  simp only at hread
  split_ifs at hread
  · obtain ⟨payloadHash, -, rfl, -⟩ := structuredPackage_eq_some_iff.1 hread
    exact if_neg halias
  · obtain ⟨payloadHash, -, rfl, -⟩ := rawPackage_eq_some_iff.1 hread
    exact if_neg halias

lemma ModelOp.entry_name {op : ModelOp} {a : StoreArgs} {n : CString} (ha : a ∈ op.args)
    (hn : n ∈ op.name) (hvalid : a.Valid) (hfits : n.length ≤ 15) :
    a.name = n ∧ a.entry.name.chars = n := by
  cases op with
  | load name kind version preferredBackend seed provenance =>
    cases ha
    cases hn
    exact ⟨rfl, ModelName.copy_chars hvalid.1.not_mem_zero hfits⟩
  | importPackage path file aliasName =>
    obtain ⟨p, hp, rfl⟩ := Option.map_eq_some_iff.1 ha
    obtain ⟨q, hq, rfl⟩ := Option.map_eq_some_iff.1 hn
    obtain rfl := Option.some.inj (hp.symm.trans hq)
    have hname : p.name.chars = if cString aliasName = [] then p.name.chars
        else cString aliasName := by
      split_ifs with halias
      · rfl
      · rw [if_neg halias] at hfits
        rw [name_of_readPackage hp halias]
        exact List.take_of_length_le hfits
    refine ⟨hname, Eq.trans ?_ hname⟩
    exact ModelName.copy_chars p.name.terminated (Nat.le_of_lt_succ p.name.fits)

variable {s : AiRuntime} {op : ModelOp} {a : StoreArgs}

lemma storeModel_eq_some_iff {s' : AiRuntime} : storeModel s a = some s' ↔
    a.Valid ∧ ∃ i, s.storeIndex a.name = some i ∧ s' = s.storeAt a i := by
  unfold storeModel
  split_ifs with hvalid
  · simp [hvalid, eq_comm]
  · simp [hvalid]

lemma modelStep_eq (s : AiRuntime) (op : ModelOp) : modelStep s op =
    (op.args.bind (storeModel s)).elim (s.failLoad, false) fun s' => (s', true) := by
  cases op with
  | load name kind version preferredBackend seed provenance =>
    simp only [modelStep, aiRuntimeLoadModel, ModelOp.args, Option.bind_some]
    split_ifs with hargs
    · have hnone : storeModel s
          (memoryArgs name kind version preferredBackend seed provenance) = none := by
        refine if_neg fun hvalid => ?_
        obtain ⟨hname, hkind, hbackend⟩ := hvalid
        tauto
      rw [hnone]
      rfl
    · cases storeModel s (memoryArgs name kind version preferredBackend seed provenance) with
      | none => rfl
      | some s' => rfl
  | importPackage path file aliasName =>
    simp only [modelStep, aiRuntimeImportModelPackage, ModelOp.args]
    cases readPackage path file aliasName with
    | none => rfl
    | some p =>
      simp only [Option.map_some, Option.bind_some]
      cases storeModel s (p.args path) with
      | none => rfl
      | some s' => rfl

lemma ModelOp.name_isSome (ha : a ∈ op.args) : ∃ n, n ∈ op.name := by
  cases op with
  | load name => exact ⟨name, rfl⟩
  | importPackage path file aliasName =>
    obtain ⟨p, hp, rfl⟩ := Option.map_eq_some_iff.1 ha
    exact ⟨_, Option.map_eq_some_iff.2 ⟨p, hp, rfl⟩⟩

lemma modelStep_cases (s : AiRuntime) (op : ModelOp) :
    (∃ a ∈ op.args, ∃ n ∈ op.name, a.Valid ∧ ∃ i, s.storeIndex a.name = some i ∧
      modelStep s op = (s.storeAt a i, true)) ∨ modelStep s op = (s.failLoad, false) := by
  rw [modelStep_eq]
  cases hstore : op.args.bind (storeModel s) with
  | none => exact Or.inr rfl
  | some s' =>
    obtain ⟨a, ha, hs'⟩ := Option.bind_eq_some_iff.1 hstore
    obtain ⟨hvalid, i, hindex, rfl⟩ := storeModel_eq_some_iff.1 hs'
    obtain ⟨n, hn⟩ := ModelOp.name_isSome ha
    exact Or.inl ⟨a, ha, n, hn, hvalid, i, hindex, rfl⟩

lemma AiRuntime.find_storeAt {i : Fin 8} (hname : a.entry.name.chars = a.name)
    (hindex : s.storeIndex a.name = some i) :
    (s.storeAt a i).findModelIndex a.name = some i := by
  have hplace : Keyed.place AiModelInfo.active (fun m => m.name.chars) s.models
      a.entry.name.chars = some i := by
    rw [hname]
    exact hindex
  have hfound := Keyed.find_store (v := a.entry) rfl hplace
  rw [hname] at hfound
  exact hfound

lemma AiRuntime.length_of_find {name : CString} {i : Fin 8} (h : s.findModelIndex name = some i) :
    name.length ≤ 15 := by
  have hname : (s.models i).name.chars = name :=
    (@Keyed.of_find _ _ _ _ AiModelInfo.active (fun m => m.name.chars) _ _ _ h).2
  rw [← hname]
  exact Nat.le_of_lt_succ (ModelName.fits _)

/-- The names of the active entries are distinct, and they are counted. -/
def AiRuntime.IsMap (s : AiRuntime) : Prop :=
  s.Distinct ∧ s.stats.modelCount.toNat = s.activeCount

lemma AiRuntime.activeCount_le (s : AiRuntime) : s.activeCount ≤ 8 :=
  List.countP_le_length.trans (List.length_finRange).le

lemma storeAt_count (s : AiRuntime) (a : StoreArgs) (i : Fin 8) :
    (s.storeAt a i).stats.modelCount.toNat = (s.storeAt a i).activeCount := by
  have hle := (s.setModel i a.entry).activeCount_le
  exact UInt32.toNat_ofNat_of_lt' (hle.trans_lt (by decide))

lemma keepsMap_of_nameFits (h : s.IsMap) (hfits : NameFits s op) : KeepsMap s op := by
  rcases modelStep_cases s op with ⟨a, ha, n, hn, hvalid, i, hindex, hstep⟩ | hstep
  · have hlen := hfits a ha n hn hvalid (Option.isSome_iff_exists.2 ⟨i, hindex⟩)
    obtain ⟨rfl, hname⟩ := ModelOp.entry_name ha hn hvalid hlen
    have hplace : Keyed.place AiModelInfo.active (fun m => m.name.chars) s.models
        a.entry.name.chars = some i := by
      rw [hname]
      exact hindex
    constructor
    · rw [hstep]
      exact h.1.store hplace
    · rw [hstep]
      exact storeAt_count s a i
    · intro _
      refine ⟨a, ha, a.name, hn, i, ?_, ?_, fun j hj => ?_⟩
      · rw [hstep]
        exact AiRuntime.find_storeAt hname hindex
      · rw [hstep]
        rfl
      · have hj' := @Keyed.place_of_find _ _ _ _ AiModelInfo.active (fun m => m.name.chars) _ _ _ hj
        exact Option.some.inj (hj'.symm.trans hindex)
  · constructor
    · rw [hstep]
      exact h.1
    · rw [hstep]
      exact h.2
    · intro htrue
      rw [hstep] at htrue
      cases htrue

lemma nameFits_of_keepsMap (h : KeepsMap s op) : NameFits s op := by
  intro a ha n hn hvalid hroom
  obtain ⟨i, hindex⟩ := Option.isSome_iff_exists.1 hroom
  have hstep : (modelStep s op).2 = true := by
    have hstore := storeModel_eq_some_iff.2 ⟨hvalid, i, hindex, rfl⟩
    rw [modelStep_eq, Option.mem_def.1 ha, Option.bind_some, hstore]
    rfl
  obtain ⟨-, -, n', hn', j, hfind, -⟩ := h.stored hstep
  obtain rfl := Option.some.inj (hn'.symm.trans hn)
  exact AiRuntime.length_of_find hfind

lemma isMap_init (models : Fin 8 → AiModelInfo) : (aiRuntimeInit models).IsMap := by
  constructor
  · intro i j hi
    cases hi
  · rfl

/-- The table is a map after every call of a run exactly when in every call of it the name of a
model that is stored has at most 15 characters. -/
theorem runs_keepsMap_iff (models : Fin 8 → AiModelInfo) (ops : List ModelOp) :
    Machine.Runs KeepsMap modelStep (aiRuntimeInit models) ops ↔
      Machine.Runs NameFits modelStep (aiRuntimeInit models) ops := by
  refine Machine.runs_congr (I := AiRuntime.IsMap) (fun s op hs hfits => ?_)
    (fun s op hs => ⟨nameFits_of_keepsMap, keepsMap_of_nameFits hs⟩) (isMap_init models) ops
  have hkeeps := keepsMap_of_nameFits hs hfits
  exact ⟨hkeeps.distinct, hkeeps.counted⟩

/-- A model with a name of 16 characters. -/
def longName : ModelOp := .load (asciiText "long-model-name1") aiModelKindAnn 1 aiBackendCpu 0 0

/-- It is stored, and not found. -/
theorem longName_notFound : ¬ ∀ (models : Fin 8 → AiModelInfo) (ops : List ModelOp),
    Machine.Runs KeepsMap modelStep (aiRuntimeInit models) ops := by
  intro h
  have hkeeps := (h (fun _ => (memoryArgs [] 0 0 0 0 0).entry) [longName]).1
  obtain ⟨a, -, n, hn, i, hfind, -⟩ := hkeeps.stored (by decide +kernel)
  obtain rfl : asciiText "long-model-name1" = n := Option.some.inj hn
  have hnone : (modelStep (aiRuntimeInit fun _ => (memoryArgs [] 0 0 0 0 0).entry)
      longName).1.findModelIndex (asciiText "long-model-name1") = none := by decide +kernel
  rw [hnone] at hfind
  cases hfind

end NeuroSpark.Ai
