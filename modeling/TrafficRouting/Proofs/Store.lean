import TrafficRouting.Proofs.FileTree
import TrafficRouting.Proofs.Rulebook.Document
import TrafficRouting.Store

/-!
# TrafficRouting.Proofs.Store — what a file store gives back

`load_persist`: after a write that succeeds, the store holds the rulebook that was written.  It
joins the round trip of documents with that of files.
-/

namespace TrafficRouting.Store

variable {path : FilePath} {r : Rulebook} {overwrite : Bool} {t t' : FileTree}

/-- **Round trip of stored documents**: a rulebook comes back as it was stored. -/
theorem decodeDocument_document (r : Rulebook) :
    Toml.decodeDocument decode (document r) = .ok r := by
  have hread := r.read_toToml_below .tall rootKey
  have hdecode : decode (.table [(rootKey, .table r.fields)]) = .ok r := by
    simp [decode, Toml.record, Toml.Value.fields?, Toml.changes, Toml.fill,
      Toml.Slot.may, Rulebook.decode_fields, Except.map, bind, Except.bind, pure, Except.pure]
  rw [Toml.decodeDocument, document, hread]
  simp only [hdecode]
  rfl

/-- How far a write comes: its answer and the tree that it leaves. -/
inductive Persists (path : FilePath) (r : Rulebook) (overwrite : Bool) (t : FileTree) :
    Except StoreError Unit → FileTree → Prop
  | refused : overwrite = false → t.exists? path = true →
      Persists path r overwrite t (.error (.alreadyExists path.text)) t
  | noDirectory {e : FileError} {t₁ : FileTree} :
      (Plan.makeDirs path.directories.reverse).run t = (some e, t₁) →
      Persists path r overwrite t (.error (.io e)) t₁
  | notWritten {e : FileError} {t₁ : FileTree} :
      (Plan.makeDirs path.directories.reverse).run t = (none, t₁) →
      t₁.write path.temporary (document r).toUTF8 = .error e →
      Persists path r overwrite t (.error (.io e)) t₁
  | notMoved {e : FileError} {t₁ t₂ : FileTree} :
      (Plan.makeDirs path.directories.reverse).run t = (none, t₁) →
      t₁.write path.temporary (document r).toUTF8 = .ok t₂ →
      t₂.rename path.temporary path = .error e →
      Persists path r overwrite t (.error (.io e)) t₂
  | moved {t₁ t₂ t₃ : FileTree} :
      (Plan.makeDirs path.directories.reverse).run t = (none, t₁) →
      t₁.write path.temporary (document r).toUTF8 = .ok t₂ →
      t₂.rename path.temporary path = .ok t₃ →
      Persists path r overwrite t (.ok ()) t₃

theorem persists (path : FilePath) (r : Rulebook) (overwrite : Bool) (t : FileTree) :
    Persists path r overwrite t ((persist path r overwrite).run t).1
      ((persist path r overwrite).run t).2 := by
  rw [persist, Plan.run]
  split
  · rename_i h
    simp only [Bool.and_eq_true, Bool.not_eq_true'] at h
    exact .refused h.1 h.2
  · rw [Plan.run_bind]
    cases hdirs : (Plan.makeDirs path.directories.reverse).run t with | mk e? t₁
    cases e? with
    | some e => exact .noDirectory hdirs
    | none =>
      cases hwrite : t₁.write path.temporary (document r).toUTF8 with
      | error e =>
        simp only [Plan.run, Change.apply, hwrite]
        exact .notWritten hdirs hwrite
      | ok t₂ =>
        cases hrename : t₂.rename path.temporary path with
        | error e =>
          simp only [Plan.run, Change.apply, hwrite, hrename]
          exact .notMoved hdirs hwrite hrename
        | ok t₃ =>
          simp only [Plan.run, Change.apply, hwrite, hrename]
          exact .moved hdirs hwrite hrename

theorem Persists.of_run {x : Except StoreError Unit × FileTree}
    (h : (persist path r overwrite).run t = x) : Persists path r overwrite t x.1 x.2 :=
  h ▸ persists path r overwrite t

/-- **What was written is loaded.** -/
theorem load_persist (h : (persist path r overwrite).run t = (.ok (), t')) :
    load path t' = .ok (some r) := by
  cases Persists.of_run h with | moved hdirs hwrite hrename
  obtain ⟨hexists, hbytes⟩ := FileTree.readBytes_rename_write hwrite hrename
  have htext : t'.readText path = .ok (document r) := by
    refine bind_eq_ok_iff.mpr ⟨_, hbytes, ?_⟩
    rw [Text.decode?_toUTF8]
  rw [load, if_pos hexists]
  refine bind_eq_ok_iff.mpr ⟨_, mapError_eq_ok_iff.mpr htext, ?_⟩
  exact map_eq_ok_iff.mpr ⟨r, mapError_eq_ok_iff.mpr (decodeDocument_document r), rfl⟩

end TrafficRouting.Store
