import ConversionTracking.Proofs.Store.Database
import ConversionTracking.Proofs.Value.Decimals
import ConversionTracking.Yaml.Document

/-!
What the values of YAML texts are made of: numbers in them are whole or binary, never decimal.
-/

namespace ConversionTracking

theorem Value.mem_of_mem_distinct {items : List Value} :
    ∀ item ∈ Value.distinct items, item ∈ items := by
  have collected (kept rest : List Value) : ∀ item ∈ rest.foldl (fun kept item =>
      if kept.any (equals item) then kept else kept ++ [item]) kept, item ∈ kept ++ rest := by
    induction rest generalizing kept with
    | nil => simp
    | cons first rest ih =>
        intro item member
        have inRest := ih _ item member
        dsimp only at inRest
        split at inRest
        · rw [List.mem_append, List.mem_cons]
          exact (List.mem_append.mp inRest).imp_right Or.inr
        · simpa using inRest
  exact collected [] items

theorem Except.forall_of_mapM {α β ε : Type} {property : β → Prop} {read : α → Except ε β}
    (each : ∀ item value, read item = .ok value → property value) {items : List α}
    {values : List β} (reads : items.mapM read = .ok values) : ∀ value ∈ values, property value := by
  induction items generalizing values with
  | nil =>
      obtain rfl := Except.ok.inj reads
      simp
  | cons item rest ih =>
      rw [List.mapM_cons] at reads
      obtain ⟨first, isFirst, reads⟩ := Except.bind_eq_ok_iff.mp reads
      obtain ⟨others, areOthers, reads⟩ := Except.bind_eq_ok_iff.mp reads
      obtain rfl := Except.ok.inj reads
      exact List.forall_mem_cons.mpr ⟨each item first isFirst, ih areOthers⟩

namespace Yaml

theorem Scalar.not_hasDecimal_of_read {kind : Kind} {text : String} {value : Value}
    (reads : read kind text = .ok value) : ¬value.HasDecimal := by
  have ofMap {α ε : Type} {value : Value} {result : Except ε α} {wrap : α → Value}
      (isMap : result.map wrap = .ok value) (noDecimal : ∀ content, ¬(wrap content).HasDecimal) :
      ¬value.HasDecimal := by
    cases result with
    | error _ => contradiction
    | ok content => exact Except.ok.inj isMap ▸ noDecimal content
  cases kind with
  | null =>
      obtain rfl := Except.ok.inj reads
      nofun
  | text =>
      obtain rfl := Except.ok.inj reads
      nofun
  | bool => exact ofMap reads fun _ => nofun
  | int => exact ofMap reads fun _ => nofun
  | float => exact ofMap reads fun _ => nofun
  | binary => exact ofMap reads fun _ => nofun
  | timestamp =>
      unfold read readTimestamp at reads
      dsimp only at reads
      split at reads
      · contradiction
      · rename_i stamp _
        have ofStamp {result : Value} (isStamp : ofTimestamp stamp = .ok result) :
            ¬result.HasDecimal := by
          unfold ofTimestamp at isStamp
          dsimp only at isStamp
          split at isStamp
          · exact ofMap isStamp fun _ => nofun
          · exact ofMap isStamp fun _ => nofun
        cases isStamp : ofTimestamp stamp with
        | error _ =>
            rw [isStamp] at reads
            contradiction
        | ok result =>
            rw [isStamp] at reads
            exact Except.ok.inj reads ▸ ofStamp isStamp
  | _ => contradiction

namespace Node

theorem not_hasDecimal_of_readLeaf {node : Node} {value : Value}
    (reads : node.readLeaf = .ok (some value)) : ¬value.HasDecimal := by
  unfold readLeaf at reads
  split at reads
  · contradiction
  · split at reads
    · cases reads
    · obtain ⟨text, _, reads⟩ := Except.bind_eq_ok_iff.mp reads
      obtain ⟨_, isRead, same⟩ := Except.bind_eq_ok_iff.mp reads
      obtain rfl := Option.some.inj (Except.ok.inj same)
      exact Scalar.not_hasDecimal_of_read isRead

theorem not_hasDecimal_of_endless {kind? : Option Kind} {value : Value}
    (reads : endless kind? = .ok value) : ¬value.HasDecimal := by
  have ofPart : ¬(Value.object 0).HasDecimal := nofun
  have ofName : ¬(Value.text "").HasDecimal := nofun
  unfold endless at reads
  split at reads
  · obtain rfl := Except.ok.inj reads
    simpa [Value.not_hasDecimal_list_iff] using ofPart
  · obtain rfl := Except.ok.inj reads
    simpa [Value.not_hasDecimal_list_iff] using ofPart
  · obtain rfl := Except.ok.inj reads
    simpa [Value.not_hasDecimal_list_iff] using ofPart
  · obtain rfl := Except.ok.inj reads
    simpa [Value.not_hasDecimal_map_iff] using ⟨ofName, ofPart⟩
  · obtain rfl := Except.ok.inj reads
    simpa [Value.not_hasDecimal_set_iff] using ofPart
  · contradiction

theorem not_hasDecimal_of_build {depth : Nat} {node : Node} {value : Value}
    (builds : node.build depth = .ok value) : ¬value.HasDecimal := by
  induction depth generalizing node value with
  | zero => contradiction
  | succ depth ih =>
      unfold build at builds
      split at builds
      · contradiction
      · exact not_hasDecimal_of_endless builds
      · rename_i node _ _ _ sameDepth _
        obtain rfl := Nat.succ.inj sameDepth
        have ofItems {items : List Node} {values : List Value}
            (areBuilt : items.mapM (build depth) = .ok values) : ∀ value ∈ values, ¬value.HasDecimal :=
          Except.forall_of_mapM (fun _ _ => ih) areBuilt
        have ofSingles (builds : (do
            let entries ← singleEntries (← node.sequenceItems)
            return Value.list (← entries.mapM fun (key, value) =>
              return Value.tuple [← build depth key, ← build depth value])) = .ok value) :
            ¬value.HasDecimal := by
          obtain ⟨_, _, builds⟩ := Except.bind_eq_ok_iff.mp builds
          obtain ⟨entries, _, builds⟩ := Except.bind_eq_ok_iff.mp builds
          obtain ⟨values, areBuilt, builds⟩ := Except.bind_eq_ok_iff.mp builds
          obtain rfl := Except.ok.inj builds
          rw [Value.not_hasDecimal_list_iff]
          refine Except.forall_of_mapM (fun entry value isBuilt => ?_) areBuilt
          obtain ⟨key, isKey, isBuilt⟩ := Except.bind_eq_ok_iff.mp isBuilt
          obtain ⟨content, isContent, isBuilt⟩ := Except.bind_eq_ok_iff.mp isBuilt
          obtain rfl := Except.ok.inj isBuilt
          simpa [Value.not_hasDecimal_tuple_iff] using ⟨ih isKey, ih isContent⟩
        split at builds
        · obtain ⟨items, _, builds⟩ := Except.bind_eq_ok_iff.mp builds
          obtain ⟨values, areBuilt, builds⟩ := Except.bind_eq_ok_iff.mp builds
          obtain rfl := Except.ok.inj builds
          exact (Value.not_hasDecimal_list_iff _).mpr (ofItems areBuilt)
        · obtain ⟨entries, _, builds⟩ := Except.bind_eq_ok_iff.mp builds
          obtain ⟨pairs, areBuilt, builds⟩ := Except.bind_eq_ok_iff.mp builds
          obtain rfl := Except.ok.inj builds
          have ofPairs : ∀ pair ∈ pairs, ¬pair.1.HasDecimal ∧ ¬pair.2.HasDecimal := by
            refine Except.forall_of_mapM (fun entry pair isBuilt => ?_) areBuilt
            obtain ⟨key, isKey, isBuilt⟩ := Except.bind_eq_ok_iff.mp isBuilt
            obtain ⟨value, isValue, isBuilt⟩ := Except.bind_eq_ok_iff.mp isBuilt
            exact Except.ok.inj isBuilt ▸ ⟨ih isKey, ih isValue⟩
          have ofEntries := Entries.forall_ofList (fun key => ¬key.HasDecimal)
            (fun value => ¬value.HasDecimal) ofPairs
          exact (Value.not_hasDecimal_map_iff _).mpr ofEntries
        · obtain ⟨entries, _, builds⟩ := Except.bind_eq_ok_iff.mp builds
          obtain ⟨values, areBuilt, builds⟩ := Except.bind_eq_ok_iff.mp builds
          obtain rfl := Except.ok.inj builds
          have ofValues : ∀ value ∈ values, ¬value.HasDecimal := by
            refine Except.forall_of_mapM (fun entry value isBuilt => ?_) areBuilt
            exact ih isBuilt
          rw [Value.not_hasDecimal_set_iff]
          exact fun item member => ofValues item (Value.mem_of_mem_distinct item member)
        · exact ofSingles builds
        · exact ofSingles builds
        · obtain ⟨leaf, isLeaf, builds⟩ := Except.bind_eq_ok_iff.mp builds
          cases leaf with
          | none => contradiction
          | some value => exact Except.ok.inj builds ▸ not_hasDecimal_of_readLeaf isLeaf

theorem not_hasDecimal_of_toValue {node : Node} {value : Value} (reads : node.toValue = .ok value) :
    ¬value.HasDecimal := by
  obtain ⟨_, _, reads⟩ := Except.bind_eq_ok_iff.mp reads
  obtain ⟨_, _, builds⟩ := Except.bind_eq_ok_iff.mp reads
  exact not_hasDecimal_of_build builds

end Node

theorem not_hasDecimal_of_valueOfText {text : String} {value : Value}
    (reads : valueOfText text = .ok value) : ¬value.HasDecimal := by
  unfold valueOfText at reads
  dsimp only at reads
  split at reads
  · contradiction
  · obtain ⟨node, _, reads⟩ := Except.bind_eq_ok_iff.mp reads
    cases node with
    | none =>
        obtain rfl := Except.ok.inj reads
        nofun
    | some node => exact Node.not_hasDecimal_of_toValue reads

end Yaml

end ConversionTracking
