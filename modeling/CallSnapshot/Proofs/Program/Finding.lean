import CallSnapshot.Program.Registry
import CallSnapshot.Proofs.Acting

/-!
The search for functions by name, whatever it is that loads files. Files are gone through once for all
names; what comes of it is for each name what a search for this name alone would give: the first file
that supplies it.
-/

namespace CallSnapshot.Registry

variable {σ : Type}

/-- A way to load files: what the names in a file stand for, or why it cannot be loaded. -/
abbrev Loader (σ : Type) := Path → ExceptT Fault (StateM σ) (String → Option Thing)

/-- Of the wanted names of a loaded file, those that can be called. -/
def entrances (wanted : List String) (space : String → Option Thing) (file : Path) : List Entrance :=
  wanted.filterMap fun n => ((space n).filter Thing.isCallable).map fun t => ⟨n, t, file⟩

def sought (names : List String) (found : List Entrance) (x : Path × Source.Module) : List String :=
  names.filter fun n => (found.find? (·.name == n)).isNone && x.2.exported.contains n

/-- Goes through files that were read, with the functions that are found so far. -/
def searchFrom (load : Loader σ) (names : List String) (s : σ) (found : List Entrance) :
    List (Path × Source.Module) → Acting (List Entrance × σ)
  | [] => pure (found, s)
  | (file, m) :: rest => do
    if (sought names found (file, m)).isEmpty then searchFrom load names s found rest
    else
      let (o, s) := (load file).run s
      match o with
      | .ok space => searchFrom load names s (found ++ entrances (sought names found (file, m)) space file) rest
      | .error f =>
        if f.kind.isFinal then throw f
        Acting.note ⟨.warning, s!"Could not load functions from {file.text}: ", some f⟩
        searchFrom load names s found rest

/-- Finds functions by name in files. -/
def search (load : Loader σ) (files : List Path) (names : List String) (s : σ) : Acting (List Entrance × σ) := do
  let scanned ← files.mapM scanFile
  searchFrom load names s [] (scanned.filterMap id)

/-- The way of a program: a file is a module of it, and is loaded once. -/
def ownLoader : Loader (Program × List (Path × Nat)) := fun file s =>
  match (load ⟨s.2, []⟩ file).run s.1 with
  | (.ok (number, r), p) => (.ok (p.lookup? number), (p, r.loaded))
  | (.error f, p) => (.error f, (p, s.2))

lemma run_loading_bind {α β : Type} (c : Loading α) (f : α → Loading β) (p : Program) :
    (c >>= f).run p = match c.run p with
      | (.ok a, q) => (f a).run q
      | (.error e, q) => (.error e, q) := by
  change StateT.run (c >>= f).run p = match StateT.run c.run p with
    | (.ok a, q) => StateT.run (f a).run q
    | (.error e, q) => (.error e, q)
  simp only [ExceptT.run_bind, StateT.run_bind]
  rcases StateT.run c.run p with ⟨e | a, q⟩ <;> rfl

lemma run_load (r : Registry) (file : Path) (p : Program) :
    (r.load file).run p = match (load ⟨r.loaded, []⟩ file).run p with
      | (.ok (number, r'), q) => (.ok (number, ⟨r'.loaded, r.functions⟩), q)
      | (.error f, q) => (.error f, q) := by
  have hget : (get : Loading Program).run p = (.ok p, p) := rfl
  simp only [load, run_loading_bind, hget]
  cases r.loaded.lookup (p.files.resolve file) with
  | some number => rfl
  | none =>
    simp only [run_loading_bind]
    rcases (loadFile (p.files.resolve file)).run p with ⟨f | number, q⟩ <;> rfl

lemma run_ownLoader (file : Path) (p : Program) (loaded : List (Path × Nat)) :
    (ownLoader file).run (p, loaded) = match (load ⟨loaded, []⟩ file).run p with
      | (.ok (number, r), q) => (.ok (q.lookup? number), (q, r.loaded))
      | (.error f, q) => (.error f, (q, loaded)) := rfl

lemma run_enter (r : Registry) (wanted : List String) (file : Path) (p : Program) :
    (r.enter wanted file).run p = match (ownLoader file).run (p, r.loaded) with
      | (.ok space, q, loaded) => (.ok ⟨loaded, r.functions ++ entrances wanted space file⟩, q)
      | (.error f, q, _) => (.error f, q) := by
  rw [enter, run_loading_bind, run_load, run_ownLoader]
  rcases (load ⟨r.loaded, []⟩ file).run p with ⟨f | ⟨number, r'⟩, q⟩ <;> rfl

lemma loaded_of_error {file : Path} {s s' : Program × List (Path × Nat)} {f : Fault}
    (h : (ownLoader file).run s = (.error f, s')) : s'.2 = s.2 := by
  rw [run_ownLoader] at h
  rcases hload : (load ⟨s.2, []⟩ file).run s.1 with ⟨f' | ⟨number, r⟩, q⟩ <;> rw [hload] at h
  · cases h
    rfl
  · cases congrArg Prod.fst h

lemma buildFrom_eq (p : Program) (names : List String) (r : Registry) (scanned : List (Path × Source.Module)) :
    buildFrom p names r scanned = (do
      let (found, p, loaded) ← searchFrom ownLoader names (p, r.loaded) r.functions scanned
      return (p, ⟨loaded, found⟩)) := by
  induction scanned generalizing p r with
  | nil => rfl
  | cons x scanned ih =>
    obtain ⟨file, m⟩ := x
    have hsought : (names.filter fun n => (r.lookup? n).isNone && m.exported.contains n) =
        sought names r.functions (file, m) := rfl
    unfold buildFrom searchFrom
    dsimp only
    rw [hsought, run_enter]
    split
    · exact ih p r
    · rcases hload : (ownLoader file).run (p, r.loaded) with ⟨f | space, p', loaded⟩
      · obtain rfl : loaded = r.loaded := loaded_of_error hload
        cases hf : f.kind.isFinal with
        | true => simp [hf]
        | false => simp [hf, ih]
      · exact ih p' _

/-- The registry is built by a search that loads files as modules of the program. -/
lemma build_eq (p : Program) (files : List Path) (names : List String) :
    build p files names = (do
      let (found, p, loaded) ← search ownLoader files names (p, [])
      return (p, ⟨loaded, found⟩)) := by
  simp only [build, search, buildFrom_eq, bind_assoc]

/-! What a search finds. -/

def parsed? (fs : Files) (file : Path) : Option (Path × Source.Module) :=
  ((fs.read file).toOption.bind fun content => (Config.textOf content >>= Source.parse).toOption).map (file, ·)

/-- What a file gives for a name: it exports it, it loads, and what the name stands for can be called. -/
def supplied? (ns : Path → Except Fault (String → Option Thing)) (n : String) (x : Path × Source.Module) :
    Option Entrance :=
  if x.2.exported.contains n then
    (ns x.1).toOption.bind fun space => ((space n).filter Thing.isCallable).map fun t => ⟨n, t, x.1⟩
  else none

/-- The files that export a name which is looked for and which no file before them supplies. -/
def needed (ns : Path → Except Fault (String → Option Thing)) (names : List String) :
    (before rest : List (Path × Source.Module)) → List Path
  | _, [] => []
  | before, x :: rest =>
    let isNeeded := names.any fun n => (before.findSome? (supplied? ns n)).isNone && x.2.exported.contains n
    (if isNeeded then [x.1] else []) ++ needed ns names (before ++ [x]) rest

/-- Loading a file gives what `ns` says, whatever was loaded before; `I` holds of the state once such files
have been loaded, one after the other. -/
structure Loader.Acts (load : Loader σ) (I : List Path → σ → Prop)
    (ns : Path → Except Fault (String → Option Thing)) : Prop where
  run : ∀ file done s, I done s → ((load file).run s).1 = ns file ∧ I (done ++ [file]) ((load file).run s).2
  /-- A file that cannot be loaded does not end the program. -/
  mild : ∀ file f, ns file = .error f → f.kind.isFinal = false

lemma find?_entrances (wanted : List String) (space : String → Option Thing) (file : Path) (n : String) :
    (entrances wanted space file).find? (·.name == n) =
      if n ∈ wanted then ((space n).filter Thing.isCallable).map fun t => ⟨n, t, file⟩ else none := by
  induction wanted with
  | nil => rfl
  | cons m wanted ih =>
    have hcons : entrances (m :: wanted) space file =
        (((space m).filter Thing.isCallable).map fun t => Entrance.mk m t file).toList ++
          entrances wanted space file := by
      rw [entrances, List.filterMap_cons]
      cases (space m).filter Thing.isCallable <;> rfl
    rw [hcons, List.find?_append, ih]
    by_cases hm : m = n
    · subst hm
      cases (space m).filter Thing.isCallable <;> simp
    · have hhead : (((space m).filter Thing.isCallable).map fun t => Entrance.mk m t file).toList.find?
          (·.name == n) = none := by
        cases (space m).filter Thing.isCallable <;> simp [hm]
      rw [hhead, Option.none_or]
      simp [Ne.symm hm]

open Acting

lemma does_scanFile (fs : Files) (file : Path) :
    Does (scanFile file) fs fun o gs => gs = fs ∧ o = parsed? fs file := by
  have hread : Ends (do
      let content ← ask file fun fs => fs.read file
      settle (Config.textOf content >>= Source.parse)) fs fun r gs =>
      gs = fs ∧ r.toOption.map (file, ·) = parsed? fs file := by
    rw [parsed?]
    cases hr : fs.read file with
    | error e =>
      refine (ends_ask_fails hr _).mono ?_
      rintro _ _ ⟨rfl, rfl⟩
      exact ⟨rfl, rfl⟩
    | ok content => exact (does_ask (Q := fun a gs => a = content ∧ gs = fs) hr ⟨rfl, rfl⟩).ends_bind (by
        rintro _ _ ⟨rfl, rfl⟩
        exact ends_settle _ ⟨rfl, rfl⟩)
  unfold scanFile
  refine (does_outcome hread).bind ?_
  rintro (f | m) gs ⟨rfl, hparsed⟩
  · exact does_note_bind _ (does_pure ⟨rfl, hparsed⟩)
  · exact does_pure ⟨rfl, hparsed⟩

lemma does_scan (fs : Files) (files : List Path) :
    Does (files.mapM scanFile) fs fun scanned gs => gs = fs ∧ scanned = files.map (parsed? fs) := by
  refine does_mapM (I := fun pre scanned gs => gs = fs ∧ scanned = pre.map (parsed? fs)) ?_ ⟨rfl, rfl⟩
  rintro pre file post scanned _ - ⟨rfl, rfl⟩
  refine (does_scanFile _ file).mono ?_
  rintro _ _ ⟨rfl, rfl⟩
  exact ⟨rfl, by rw [List.map_append, List.map_singleton]⟩

section Search

variable {load : Loader σ} {I : List Path → σ → Prop} {ns : Path → Except Fault (String → Option Thing)}
  {names : List String} {fs : Files}

/-- What has been found once such files have been gone through. -/
structure Found (ns : Path → Except Fault (String → Option Thing)) (names : List String)
    (scanned : List (Path × Source.Module)) (found : List Entrance) : Prop where
  wanted : ∀ n ∈ names, found.find? (·.name == n) = scanned.findSome? (supplied? ns n)
  other : ∀ n ∉ names, found.find? (·.name == n) = none

variable {before rest : List (Path × Source.Module)} {found : List Entrance} {x : Path × Source.Module}

lemma contains_of_mem_sought {n : String} (h : n ∈ sought names found x) : x.2.exported.contains n = true :=
  (Bool.and_eq_true_iff.mp (List.mem_filter.mp h).2).2

lemma Found.step (h : Found ns names before found) {new : List Entrance}
    (hnew : ∀ n, new.find? (·.name == n) = if n ∈ sought names found x then supplied? ns n x else none) :
    Found ns names (before ++ [x]) (found ++ new) where
  wanted n hn := by
    rw [List.find?_append, hnew, List.findSome?_append, ← h.wanted n hn, List.findSome?_singleton]
    cases hfound : found.find? (·.name == n) with
    | some e => rfl
    | none =>
      rw [Option.none_or, Option.none_or]
      split
      · rfl
      · rename_i hsought
        have hexported : ¬ x.2.exported.contains n = true := fun hexported =>
          hsought (List.mem_filter.mpr ⟨hn, by rw [hfound, hexported]; rfl⟩)
        rw [supplied?, if_neg hexported]
  other n hn := by
    have hsought : n ∉ sought names found x := fun hmem => hn (List.mem_filter.mp hmem).1
    rw [List.find?_append, hnew, h.other n hn, if_neg hsought, Option.none_or]

lemma needed_cons (h : Found ns names before found) : needed ns names before (x :: rest) =
    (if (sought names found x).isEmpty then [] else [x.1]) ++ needed ns names (before ++ [x]) rest := by
  have hneeded : (names.any fun n => (before.findSome? (supplied? ns n)).isNone && x.2.exported.contains n) =
      !(sought names found x).isEmpty := by
    rw [Bool.eq_iff_iff, List.any_eq_true, Bool.not_eq_true', List.isEmpty_eq_false_iff_exists_mem]
    simp only [sought, List.mem_filter]
    exact exists_congr fun n => and_congr_right fun hn => by rw [h.wanted n hn]
  rw [needed, hneeded]
  cases (sought names found x).isEmpty <;> rfl

lemma does_searchFrom (h : load.Acts I ns) {done : List Path} {s : σ} (hfound : Found ns names before found)
    (hs : I done s) : Does (searchFrom load names s found rest) fs fun (found', s') gs =>
      gs = fs ∧ Found ns names (before ++ rest) found' ∧ I (done ++ needed ns names before rest) s' := by
  induction rest generalizing before found done s with
  | nil => exact does_pure ⟨rfl, by rwa [List.append_nil], by rwa [needed, List.append_nil]⟩
  | cons x rest ih =>
    obtain ⟨file, m⟩ := x
    rw [needed_cons hfound, List.append_cons, searchFrom]
    -- where nothing is found in the file, whether it is loaded or not
    have hnone : (∀ n ∈ sought names found (file, m), supplied? ns n (file, m) = none) →
        Found ns names (before ++ [(file, m)]) found := by
      intro hnone
      have hnew : ∀ n, ([] : List Entrance).find? (·.name == n) =
          if n ∈ sought names found (file, m) then supplied? ns n (file, m) else none := by
        intro n
        split
        · exact (hnone n ‹_›).symm
        · rfl
      have hstep := hfound.step hnew
      rwa [List.append_nil] at hstep
    split
    · rename_i hempty
      rw [List.isEmpty_iff] at hempty
      exact ih (hnone (by simp [hempty])) hs
    · obtain ⟨hrun, hs'⟩ := h.run file done s hs
      rw [← List.append_assoc]
      rcases hload : (load file).run s with ⟨f | space, s'⟩
      · rw [hload] at hrun hs'
        have hmild := h.mild file f hrun.symm
        simp only [hmild, Bool.false_eq_true, if_false]
        refine does_note_bind _ (ih (hnone fun n hn => ?_) hs')
        rw [supplied?, if_pos (contains_of_mem_sought hn), ← hrun]
        rfl
      · rw [hload] at hrun hs'
        refine ih (hfound.step fun n => (find?_entrances _ _ _ _).trans ?_) hs'
        split
        · rename_i hn
          rw [supplied?, if_pos (contains_of_mem_sought hn), ← hrun]
          rfl
        · rfl

lemma does_search (h : load.Acts I ns) (files : List Path) {s : σ} (hs : I [] s) :
    Does (search load files names s) fs fun (found, s') gs => gs = fs ∧
      Found ns names (files.filterMap (parsed? fs)) found ∧
        I (needed ns names [] (files.filterMap (parsed? fs))) s' := by
  refine (does_scan fs files).bind ?_
  rintro _ _ ⟨rfl, rfl⟩
  rw [List.filterMap_map, Function.id_comp]
  have hnone : Found ns names [] [] := ⟨fun _ _ => rfl, fun _ _ => rfl⟩
  exact does_searchFrom h hnone hs

end Search

/-- The registry of a program is built by a search that loads files as its modules; and a search finds the
first file that supplies a name, whatever it is that loads files, as long as that gives the same of a file
at all times. The entry of a wanted name goes by the files and this name alone: it is that of the first file
that can be read and parsed, exports the name, can be loaded, and holds something under the name that can be
called. Only those files are loaded that export a wanted name which no file before them has supplied. -/
theorem lookup_first_supplier {load : Loader σ} {I : List Path → σ → Prop}
    {ns : Path → Except Fault (String → Option Thing)} (h : load.Acts I ns) {s : σ} (hs : I [] s)
    (files : List Path) (names : List String) (fs : Files) :
    (∀ p : Program, build p files names = (do
      let (found, p, loaded) ← search ownLoader files names (p, [])
      return (p, ⟨loaded, found⟩))) ∧
    Does (search load files names s) fs fun (found, s') gs =>
      let scanned := files.filterMap (parsed? fs)
      (∀ loaded n, lookup? ⟨loaded, found⟩ n =
        if n ∈ names then scanned.findSome? (supplied? ns n) else none) ∧
      I (needed ns names [] scanned) s' ∧ gs = fs := by
  refine ⟨fun p => build_eq p files names, (does_search h files hs).mono ?_⟩
  rintro ⟨found, s'⟩ _ ⟨rfl, hfound, hs'⟩
  refine ⟨fun loaded n => ?_, hs', rfl⟩
  split
  · exact hfound.wanted n ‹_›
  · exact hfound.other n ‹_›

/-! Five files of which the fourth is the first to supply a name. -/

def namedFile (name : String) : Path := ⟨.single, ["p", name]⟩

def fiveFiles : Files :=
  ⟨(["p"], .directory) :: [("a.py", "def"), ("b.py", "def f():\n    pass\n"), ("c.py", "f = 1\n"),
    ("d.py", "def f():\n    pass\n"), ("e.py", "def f():\n    pass\n")].map fun x =>
      (["p", x.1], .file (Text.encodeUtf8 x.2)), []⟩

/-- The second file cannot be loaded, and what the third one exports cannot be called. -/
def fiveSpaces (file : Path) : Except Fault (String → Option Thing) :=
  if file.name = "b.py" then .error ⟨.value, "boom"⟩
  else if file.name = "c.py" then .ok fun _ => some (.value (.int 1))
  else .ok fun n => some (.foreign ⟨file.stem, n⟩)

theorem lookup_first_supplier_of_five :
    let files := ["a.py", "b.py", "c.py", "d.py", "e.py"].map namedFile
    let load : Loader (List Path) := fun file done => (fiveSpaces file, done ++ [file])
    Does (search load files ["g", "f", "f"] []) fiveFiles fun (found, done) _ =>
      ((lookup? ⟨[], found⟩ "f").map (·.source) = some (namedFile "d.py") ∧ lookup? ⟨[], found⟩ "g" = none) ∧
        done = ["b.py", "c.py", "d.py"].map namedFile := by
  intro files load
  have hacts : load.Acts (fun done s => s = done) fiveSpaces := {
    run := fun file done s hs => ⟨rfl, congrArg (· ++ [file]) hs⟩
    mild := fun file f hf => by
      unfold fiveSpaces at hf
      split at hf
      · cases hf
        rfl
      · split at hf <;> cases hf }
  have hf : ((files.filterMap (parsed? fiveFiles)).findSome? (supplied? fiveSpaces "f")).map (·.source) =
      some (namedFile "d.py") := by decide +kernel
  have hg : ((files.filterMap (parsed? fiveFiles)).findSome? (supplied? fiveSpaces "g")).isNone = true := by
    decide +kernel
  have hneeded : needed fiveSpaces ["g", "f", "f"] [] (files.filterMap (parsed? fiveFiles)) =
      ["b.py", "c.py", "d.py"].map namedFile := by decide +kernel
  refine (lookup_first_supplier hacts rfl files ["g", "f", "f"] fiveFiles).2.mono ?_
  rintro ⟨found, done⟩ gs ⟨hlookup, hdone, -⟩
  refine ⟨⟨?_, ?_⟩, hdone.trans hneeded⟩
  · rw [hlookup, if_pos (by simp)]
    exact hf
  · rw [hlookup, if_pos (by simp)]
    exact Option.isNone_iff_eq_none.mp hg

end CallSnapshot.Registry
