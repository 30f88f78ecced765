import SocksGateway.Proofs.Log.Copy

namespace SocksGateway

def FileNode.emptied : FileNode → FileNode
  | file _ => file #[]
  | directory => directory

namespace FileTree

def kind? (t : FileTree) (key : FileKey) : Option FileNode := (t.get? key).map FileNode.emptied

/-- The same files and directories, whatever the files hold. -/
def Alike (t t' : FileTree) : Prop := ∀ key, t.kind? key = t'.kind? key

namespace Alike

theorem refl (t : FileTree) : t.Alike t := fun _ => rfl

theorem symm {t t' : FileTree} (h : t.Alike t') : t'.Alike t := fun key => (h key).symm

theorem trans {t t' t'' : FileTree} (h : t.Alike t') (h' : t'.Alike t'') : t.Alike t'' :=
  fun key => (h key).trans (h' key)

end Alike

def HasFile (t : FileTree) (key : FileKey) : Prop := ∃ content, t.get? key = some (.file content)

theorem hasFile_iff {t : FileTree} {key : FileKey} :
    t.HasFile key ↔ t.kind? key = some (.file #[]) := by
  unfold HasFile kind?
  cases t.get? key with
  | none => simp
  | some node => cases node <;> simp [FileNode.emptied]

theorem HasFile.alike {t t' : FileTree} {key : FileKey} (hf : t.HasFile key) (h : t.Alike t') :
    t'.HasFile key :=
  hasFile_iff.2 ((h key).symm.trans (hasFile_iff.1 hf))

theorem HasFile.isFixed {t : FileTree} {key : FileKey} (hf : t.HasFile key) :
    key.isFixed = false := by
  obtain ⟨content, hc⟩ := hf
  cases h : key.isFixed with
  | false => rfl
  | true => simp [get?, h] at hc

theorem get?_cases {t t' : FileTree} (h : t.Alike t') (key : FileKey) :
    (t.get? key = none ∧ t'.get? key = none) ∨
    (t.get? key = some .directory ∧ t'.get? key = some .directory) ∨
    ∃ c c', t.get? key = some (.file c) ∧ t'.get? key = some (.file c') := by
  have hkind := h key
  unfold kind? at hkind
  generalize t.get? key = node at hkind ⊢
  generalize t'.get? key = node' at hkind ⊢
  match node, node', hkind with
  | none, none, _ => exact .inl ⟨rfl, rfl⟩
  | some .directory, some .directory, _ => exact .inr (.inl ⟨rfl, rfl⟩)
  | some (.file c), some (.file c'), _ => exact .inr (.inr ⟨c, c', rfl, rfl⟩)

theorem alike_put {t t' : FileTree} (h : t.Alike t') {key : FileKey} (hk : key.isFixed = false)
    (node : FileNode) :
    (t.put key node).Alike (t'.put key node) := by
  intro k
  unfold kind?
  by_cases he : k = key
  · rw [he, get?_put_self _ hk, get?_put_self _ hk]
  · rw [get?_put_of_ne _ he, get?_put_of_ne _ he]
    exact h k

theorem alike_append {t : FileTree} {key : FileKey} (hf : t.HasFile key) (bytes : Array UInt8) :
    (t.append key bytes).Alike t := by
  intro k
  by_cases he : k = key
  · rw [he, hasFile_iff.1 hf]
    exact congrArg (Option.map FileNode.emptied) (get?_put_self t hf.isFixed _)
  · exact congrArg (Option.map FileNode.emptied) (get?_put_of_ne t he _)

theorem walk_alike {t t' : FileTree} (h : t.Alike t') (key : FileKey) (names : List String) :
    t.walk key names = t'.walk key names := by
  induction names generalizing key with
  | nil => rfl
  | cons c names ih =>
    unfold walk
    rcases get?_cases h key with ⟨hn, hn'⟩ | ⟨hn, hn'⟩ | ⟨c, c', hn, hn'⟩
    · simp only [hn, hn']
    · simp only [hn, hn', ih]
    · simp only [hn, hn']

theorem resolve_alike {t t' : FileTree} (h : t.Alike t') (path : String) :
    (∃ error, t.resolve path = .error error ∧ t'.resolve path = .error error) ∨
    ∃ key, t.resolve path = .ok (key, t.get? key) ∧
      t'.resolve path = .ok (key, t'.get? key) := by
  unfold resolve
  simp only [bind, Except.bind, walk_alike h]
  cases names? path with
  | error error => exact .inl ⟨error, rfl, rfl⟩
  | ok names =>
    dsimp only
    cases t'.walk (origin path) names with
    | error error => exact .inl ⟨error, rfl, rfl⟩
    | ok key =>
      dsimp only
      rcases get?_cases h key with ⟨hn, hn'⟩ | ⟨hn, hn'⟩ | ⟨c, c', hn, hn'⟩
      · exact .inr ⟨key, by simp only [hn], by simp only [hn']⟩
      · exact .inr ⟨key, by simp only [hn], by simp only [hn']⟩
      · simp only [hn, hn']
        split
        · exact .inl ⟨.notDirectory, rfl, rfl⟩
        · exact .inr ⟨key, by rw [hn], by rw [hn']⟩

theorem openAppend_alike {t t' : FileTree} (h : t.Alike t') (path : String) :
    (∃ error, t.openAppend path = .error error ∧ t'.openAppend path = .error error) ∨
    ∃ key u u', t.openAppend path = .ok (key, u) ∧
      t'.openAppend path = .ok (key, u') ∧ u.Alike u' := by
  unfold openAppend
  split
  next =>
    left
    simp only [bind, Except.bind, walk_alike h]
    cases names? path with
    | error error => exact ⟨error, rfl, rfl⟩
    | ok names =>
      dsimp only
      cases t'.walk (origin path) names.dropLast with
      | error error => exact ⟨error, rfl, rfl⟩
      | ok key =>
        dsimp only
        rcases get?_cases h key with ⟨hn, hn'⟩ | ⟨hn, hn'⟩ | ⟨c, c', hn, hn'⟩
        · exact ⟨.notFound, by simp only [hn], by simp only [hn']⟩
        · exact ⟨.isDirectory, by simp only [hn], by simp only [hn']⟩
        · exact ⟨.notDirectory, by simp only [hn], by simp only [hn']⟩
  next =>
    rcases resolve_alike h path with ⟨error, he, he'⟩ | ⟨key, hk, hk'⟩
    · exact .inl ⟨error, by rw [he]; rfl, by rw [he']; rfl⟩
    rw [hk, hk']
    rcases get?_cases h key with ⟨hn, hn'⟩ | ⟨hn, hn'⟩ | ⟨c, c', hn, hn'⟩
    · have hfree : key.isFixed = false := by
        cases hx : key.isFixed with
        | false => rfl
        | true => simp [get?, hx] at hn
      exact .inr ⟨key, _, _, by rw [hn]; rfl, by rw [hn']; rfl, alike_put h hfree _⟩
    · exact .inl ⟨.isDirectory, by rw [hn]; rfl, by rw [hn']; rfl⟩
    · exact .inr ⟨key, t, t', by rw [hn]; rfl, by rw [hn']; rfl, h⟩

theorem hasFile_openAppend {t u : FileTree} {path : String} {key : FileKey}
    (h : t.openAppend path = .ok (key, u)) :
    u.HasFile key ∧ ∀ k, t.HasFile k → u.HasFile k := by
  have hfree := (content_openAppend h).1
  rcases openAppend_eq_ok h with ⟨content, hget, rfl⟩ | ⟨hget, rfl⟩
  · exact ⟨⟨content, hget⟩, fun k hk => hk⟩
  · refine ⟨⟨#[], get?_put_self t hfree _⟩, fun k hk => ?_⟩
    obtain ⟨content, hk⟩ := hk
    have hne : k ≠ key := by
      intro he
      rw [he, hget] at hk
      cases hk
    exact ⟨content, (get?_put_of_ne t hne _).trans hk⟩

end FileTree

end SocksGateway
