import RenkuNotebooks.Foundation.Results
import RenkuNotebooks.Notebooks.AmaltheaPatches

/-!
# Errors while a storage is written

What writes a storage into the manifest raises errors of Python and of marshmallow, never one of
the service's own.
-/

namespace RenkuNotebooks.Notebooks.StorageErrors

/-- Where a computation raises, it raises no `GenericError`. -/
def Foreign {α : Type} (result : Except PyError α) : Prop := ∀ e, result ≠ .error (.generic e)

section

variable {α β : Type}

theorem foreign_ok (a : α) : Foreign (.ok a) := by
  intro e h
  cases h

theorem foreign_error {e : PyError} (h : ∀ own, e ≠ .generic own) :
    Foreign (.error e : Except PyError α) := by
  intro own heq
  exact h own (Except.error.inj heq)

theorem Foreign.bind {x : Except PyError α} {f : α → Except PyError β} (hx : Foreign x)
    (hf : ∀ a, Foreign (f a)) : Foreign (x >>= f) := by
  intro e h
  rcases Results.bind_eq_error_iff.mp h with hraised | ⟨a, _, hraised⟩
  · exact hx e hraised
  · exact hf a e hraised

theorem Foreign.mapM {f : α → Except PyError β} (hf : ∀ a, Foreign (f a)) (as : List α) :
    Foreign (as.mapM f) := by
  induction as with
  | nil => exact foreign_ok []
  | cons a as ih =>
    rw [List.mapM_cons]
    exact (hf a).bind fun b => ih.bind fun bs => foreign_ok _

theorem Foreign.foldlM {f : β → α → Except PyError β} (hf : ∀ b a, Foreign (f b a)) (as : List α)
    (b : β) : Foreign (as.foldlM f b) := by
  induction as generalizing b with
  | nil => exact foreign_ok b
  | cons a as ih =>
    rw [List.foldlM_cons]
    exact (hf b a).bind fun b' => ih b'

end

open RCloneStorage

theorem beforeSet_foreign (value : String) : Foreign (beforeSet value) := by
  unfold beforeSet
  dsimp only
  split
  · exact foreign_error (by simp)
  · exact foreign_ok _

theorem parserSet_foreign (lower : String → String) (items : List (String × String))
    (option value : String) : Foreign (parserSet lower items option value) := by
  apply (beforeSet_foreign value).bind
  intro _
  dsimp only
  split
  · exact foreign_ok _
  · exact foreign_ok _

/-- The last step of `rewriteConfiguration`. -/
theorem switchProvider_foreign (s : RCloneStorage) :
    Foreign (match Json.getMember "type" s.configuration with
      | none => .error (.keyError "type")
      | some t =>
        if t = .str "s3" ∧ Json.getMember "provider" s.configuration = some (.str "Switch") then
          .ok (s.setConfig "provider" "Other")
        else .ok s) := by
  split
  · exact foreign_error (by simp)
  · split
    · exact foreign_ok _
    · exact foreign_ok _

theorem rewriteConfiguration_foreign (s : RCloneStorage) : Foreign s.rewriteConfiguration := by
  have htype : Foreign (.error .typeError : Except PyError RCloneStorage) := foreign_error (by simp)
  have hattribute : Foreign (.error .attributeError : Except PyError RCloneStorage) :=
    foreign_error (by simp)
  unfold rewriteConfiguration
  dsimp only
  split
  · split
    · exact htype.bind switchProvider_foreign
    · exact htype.bind switchProvider_foreign
    · split
      · split
        · exact (foreign_ok _).bind switchProvider_foreign
        · exact hattribute.bind switchProvider_foreign
      · exact (foreign_ok _).bind switchProvider_foreign
  · exact (foreign_ok _).bind switchProvider_foreign

theorem writeItems_foreign (py : PyText.Str) (name : String) (s : RCloneStorage) :
    Foreign (do
      let items ← s.configuration.foldlM (fun items item =>
        parserSet py.lower items item.1 (stringify py item.2)) []
      pure (parserWrite name items, s)) :=
  (Foreign.foldlM (fun items _ => parserSet_foreign py.lower items _ _) _ _).bind fun _ => foreign_ok _

theorem configString_foreign (py : PyText.Str) (s : RCloneStorage) (name : String) :
    Foreign (s.configString py name) := by
  have hmissing : ∀ message, Foreign (.error (.validationError message) : Except PyError Unit) :=
    fun message => foreign_error (by simp)
  have hname : Foreign (.error .valueError : Except PyError Unit) := foreign_error (by simp)
  have hrest : Foreign (do
      let s ← s.rewriteConfiguration
      if name = "DEFAULT" then
        .error .valueError
      let items ← s.configuration.foldlM (fun items item =>
        parserSet py.lower items item.1 (stringify py item.2)) []
      pure (parserWrite name items, s)) := by
    apply (rewriteConfiguration_foreign s).bind
    intro s'
    split
    · exact hname.bind fun _ => writeItems_foreign py name s'
    · exact writeItems_foreign py name s'
  unfold configString
  dsimp only
  by_cases hempty : s.configuration.isEmpty = true
  · rw [if_pos hempty]
    exact (hmissing _).bind fun _ => hrest
  · rw [if_neg hempty]
    exact hrest

theorem getManifestPatch_foreign (config : Config) (py : PyText.Str) (s : RCloneStorage)
    (baseName : String) : Foreign (s.getManifestPatch config py baseName) :=
  (configString_foreign py s _).bind fun _ => foreign_ok _

theorem cloudstorage_foreign (config : Config) (py : PyText.Str) (server : UserServer) :
    Foreign (AmaltheaPatches.cloudstorage config py server) := by
  apply (Foreign.mapM (fun storageIdx => ?_) _).bind fun _ => foreign_ok _
  exact (getManifestPatch_foreign config py storageIdx.1 _).bind fun _ => foreign_ok _

theorem imagePullSecret_foreign (config : Config) (py : PyText.Str) (server : UserServer) :
    Foreign (AmaltheaPatches.imagePullSecret config py server) := by
  have huser : Foreign server.user.gitlabUser := by
    cases server.user with
    | anonymous u => exact foreign_error (by simp)
    | registered u => exact foreign_ok _
  unfold AmaltheaPatches.imagePullSecret
  split
  · exact foreign_ok _
  · exact huser.bind fun _ => foreign_ok _

end RenkuNotebooks.Notebooks.StorageErrors
