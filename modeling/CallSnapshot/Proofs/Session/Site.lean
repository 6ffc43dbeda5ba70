import CallSnapshot.Proofs.Session.Depot

/-!
A project and its session: the source files, and the two places for copies of them. Nothing but
directories and true copies is ever in these places, and nothing else changes but what is in a
source file.
-/

namespace CallSnapshot

open Files Acting

namespace Workspace

def sessionName (w : Workspace) : String :=
  "io-snapshot-session-" ++ Digest.hexDigest (Text.encodeUtf8 w.project.text)

def sessionPlace (w : Workspace) (temp : Place) : Place := temp ++ [w.sessionName]

def localPlace (w : Workspace) : Place := w.project.names ++ [localBackupName]

def primaryDepot (w : Workspace) (temp : Place) : Depot := ⟨w.temp, temp, w.sessionName, ["backup"]⟩

def localDepot (w : Workspace) : Depot := ⟨w.project, w.project.names, localBackupName, []⟩

def file (w : Workspace) (rel : List String) : Path := ⟨.single, w.project.names ++ rel⟩

/-- A regular file in the project and in none of the directories of the session. -/
structure Source (w : Workspace) (temp : Place) (start : Files) (rel : List String)
    (bs : List UInt8) : Prop where
  content : start.get? (w.project.names ++ rel) = some (.file bs)
  session : ¬ w.sessionPlace temp <+: w.project.names ++ rel
  backups : ¬ w.localPlace <+: w.project.names ++ rel

/-- Where a session starts: with no copies, and no directory that is named as one. -/
structure Site (w : Workspace) (temp : Place) (start : Files) : Prop where
  sound : Sound start
  root : w.project.root = .single
  project : start.get? w.project.names = some .directory
  leads : Leads ((start.eraseTree (w.sessionPlace temp)).eraseTree w.localPlace) w.temp temp
  session : start.get? (w.sessionPlace temp) = none ∨ start.get? (w.sessionPlace temp) = some .directory
  apart : ¬ w.sessionPlace temp <+: w.localPlace ∧ ¬ w.localPlace <+: w.sessionPlace temp
  noCopies : ∀ q, w.sessionPlace temp ++ ["backup"] <+: q ∨ w.localPlace <+: q →
    start.get? q = none ∨ start.get? q = some .directory
  unmarked : ∀ q n, w.project.names <+: q ∨ w.sessionPlace temp ++ ["backup"] <+: q →
    start.get? (q ++ [n]) = some .directory → isBackupName n = false

/-- The files in the course of a session. -/
structure Shape (w : Workspace) (temp : Place) (start fs : Files) : Prop where
  sound : Sound fs
  current : fs.current = start.current
  outside : ∀ q, ¬ w.sessionPlace temp <+: q → ¬ w.localPlace <+: q → fs.get? q = start.get? q ∨
    ∃ rel bs c, Source w temp start rel bs ∧ q = w.project.names ++ rel ∧ fs.get? q = some (.file c)
  content : ∀ rel bs, Source w temp start rel bs →
    ∃ c, fs.get? (w.project.names ++ rel) = some (.file c)
  primary : (w.primaryDepot temp).Holds (Source w temp start) fs
  fallback : w.localDepot.Holds (Source w temp start) fs

variable {w : Workspace} {temp : Place} {start fs gs : Files} {rel : List String} {bs : List UInt8}

lemma hexDigits_slash (ds : List UInt8) : '/' ∉ ds.flatMap fun b => Text.hexDigits 2 b.toNat := by
  intro h
  obtain ⟨b, -, hb⟩ := List.mem_flatMap.mp h
  exact Text.forall_hexDigits (P := fun c => c ≠ '/') (by decide) 2 b.toNat '/' hb rfl

lemma hexDigest_slash (bs : List UInt8) : '/' ∉ (Digest.hexDigest bs).toList := by
  rw [Digest.hexDigest, String.toList_ofList]
  exact hexDigits_slash _

lemma sessionName_proper (w : Workspace) : Proper w.sessionName := by
  unfold sessionName
  have hslash := hexDigest_slash (Text.encodeUtf8 w.project.text)
  revert hslash
  generalize Digest.hexDigest (Text.encodeUtf8 w.project.text) = digest
  intro hslash
  have long : ∀ t : String, t.toList.length ≤ 2 → "io-snapshot-session-" ++ digest ≠ t := by
    rintro t ht rfl
    rw [String.toList_append, List.length_append] at ht
    have : ("io-snapshot-session-".toList).length = 20 := by decide
    omega
  refine ⟨⟨long "" (by simp), long "." (by decide), ?_⟩, long ".." (by decide)⟩
  rw [String.toList_append, List.mem_append]
  rintro (h | h)
  · revert h
    decide
  · exact hslash h

lemma localName_proper : Proper localBackupName := ⟨⟨by decide, by decide, by decide⟩, by decide⟩

lemma primaryDir_eq (w : Workspace) : w.primaryDir = down w.temp [w.sessionName, "backup"] := by
  have hdir : w.sessionDir = w.temp.child w.sessionName := rfl
  simp only [primaryDir, hdir, Path.child, down, List.append_assoc, List.cons_append, List.nil_append]

lemma primaryBackup_file (hroot : w.project.root = .single)
    (hp : ∀ n ∈ w.project.names ++ rel, n ≠ "..") (temp : Place) :
    w.primaryBackup (w.file rel) = (w.primaryDepot temp).copyPath rel := by
  rw [primaryBackup, backupIn, file, relative_inside hroot hp]
  simp only [primaryDir_eq, Depot.copyPath, primaryDepot, Depot.lead, down, List.append_assoc]

lemma localBackup_file (hroot : w.project.root = .single)
    (hp : ∀ n ∈ w.project.names ++ rel, n ≠ "..") :
    w.localBackup (w.file rel) = w.localDepot.copyPath rel := by
  rw [localBackup, backupIn, file, relative_inside hroot hp]
  simp [localDir, Path.child, Depot.copyPath, localDepot, Depot.lead, down]

lemma proper_primary (w : Workspace) (temp : Place) : ∀ n ∈ (w.primaryDepot temp).lead, Proper n := by
  intro n hn
  rcases List.mem_cons.mp hn with rfl | hn
  · exact sessionName_proper w
  · obtain rfl := List.mem_singleton.mp hn
    exact ⟨⟨by decide, by decide, by decide⟩, by decide⟩

lemma proper_fallback (w : Workspace) : ∀ n ∈ w.localDepot.lead, Proper n := by
  intro n hn
  obtain rfl := List.mem_singleton.mp hn
  exact localName_proper

lemma leads_project (hroot : w.project.root = .single) (hs : Sound gs)
    (hproject : gs.get? w.project.names = some .directory) : Leads gs w.project w.project.names := by
  have habove : ∀ r, r <+: w.project.names → gs.get? r = some .directory := by
    rintro r ⟨t, ht⟩
    by_cases hte : t = []
    · simpa [← ht, hte] using hproject
    · exact hs.above hte (by rw [ht, hproject]; rfl)
  have hdown : down ⟨.single, []⟩ w.project.names = w.project := by
    simp [down, ← hroot]
  have hplace := (leads_root gs).placeOf_down
    (fun n hn => (hs.named _ (by rw [hproject]; rfl) n hn).2)
    (fun r _ hr t ht => by simp [habove r hr] at ht) hs
    fun _ => habove _ (List.dropLast_prefix _)
  rw [hdown] at hplace
  exact ⟨hplace, hproject⟩

lemma not_prefix_of_apart {a b q : Place} (h : ¬ a <+: b ∧ ¬ b <+: a) (ha : a <+: q) : ¬ b <+: q := by
  intro hb
  rcases List.prefix_or_prefix_of_prefix ha hb with h' | h'
  · exact h.1 h'
  · exact h.2 h'

/-- What lies elsewhere at first is there with whatever is kept in the directories of the session. -/
lemma Shape.extends_outside (hs : Shape w temp start fs)
    (hq : ∀ q, ¬ w.sessionPlace temp <+: q → ¬ w.localPlace <+: q → gs.get? q = fs.get? q) :
    Extends ((start.eraseTree (w.sessionPlace temp)).eraseTree w.localPlace) gs := by
  intro q e he
  rw [get?_eraseTree _ (by simp [localPlace]), get?_eraseTree _ (by simp [sessionPlace])] at he
  split at he
  · cases he
  · rename_i hlocal
    split at he
    · cases he
    · rename_i hsession
      rw [hq q hsession hlocal]
      rcases hs.outside q hsession hlocal with hsame | ⟨rel, bs, c, hsource, rfl, hc⟩
      · exact .inl (hsame.trans he)
      · rw [hsource.content] at he
        cases he
        exact .inr ⟨⟨bs, rfl⟩, c, hc⟩

namespace Site

variable (h : Site w temp start)

include h

lemma sources : Depot.Sources (Source w temp start) := by
  have above : ∀ {rel bs}, Source w temp start rel bs → ∀ r t, t ≠ [] → rel = r ++ t →
      start.get? (w.project.names ++ r) = some .directory := by
    rintro _ bs hs r t ht rfl
    refine h.sound.above ht ?_
    rw [List.append_assoc, hs.content]
    rfl
  refine ⟨?_, ?_, ?_, ?_⟩
  · rintro _ bs hs rfl
    have := hs.content
    simp [h.project] at this
  · intro rel bs hs n hn
    exact h.sound.named _ (by rw [hs.content]; rfl) n (List.mem_append_right _ hn)
  · intro rel bs hs n hn
    obtain ⟨a, b, hab⟩ := List.append_of_mem hn
    have hne : rel ≠ [] := by
      rintro rfl
      cases hn
    have hrel : rel = (a ++ [n]) ++ (b ++ [rel.getLast hne]) := by
      conv_lhs => rw [← List.dropLast_append_getLast hne, hab]
      simp
    have hdir := above hs _ _ (by simp) hrel
    rw [← List.append_assoc] at hdir
    exact h.unmarked _ n (.inl (List.prefix_append _ _)) hdir
  · intro rel bs cs hb hc
    have := hb.content.symm.trans hc.content
    simpa using this

lemma not_prefix_project : ¬ w.sessionPlace temp <+: w.project.names ∧ ¬ w.localPlace <+: w.project.names := by
  refine ⟨fun hp => h.apart.1 (hp.trans (List.prefix_append _ _)), fun hp => ?_⟩
  have := hp.length_le
  simp [localPlace] at this

lemma project_directory (hs : Shape w temp start fs) : fs.get? w.project.names = some .directory := by
  obtain ⟨hsession, hlocal⟩ := h.not_prefix_project
  rcases hs.outside _ hsession hlocal with hq | ⟨rel, bs, c, hsource, hq, -⟩
  · rw [hq, h.project]
  · exact absurd (List.self_eq_append_right.mp hq) (h.sources.ne_nil hsource)

lemma proper_file (hs : Source w temp start rel bs) : ∀ n ∈ w.project.names ++ rel, n ≠ ".." :=
  fun n hn => (h.sound.named _ (by rw [hs.content]; rfl) n hn).2

lemma reached_primary (hs : Shape w temp start fs) : (w.primaryDepot temp).Reached fs :=
  ⟨proper_primary w temp, fun _ _ hc hq => h.leads.extends (hs.extends_outside fun q hq' _ => hq q hq')
    (hc.trans hs.current)⟩

lemma reached_fallback (hs : Shape w temp start fs) : w.localDepot.Reached fs := by
  refine ⟨proper_fallback w, fun gs hsound hc hq => leads_project h.root hsound ?_⟩
  rw [hq _ h.not_prefix_project.2, h.project_directory hs]

end Site

end Workspace

end CallSnapshot
