import Criteria.Proofs.Evaluation.Bindings
import Criteria.Service.CommandLine

/-!
# Files that a run works on

A run looks for files, empties or creates one, and puts bytes at its end.  What
it relies on there are a few laws (`KeepsFiles`), which the files of a directory
obey.  On their way into a file bytes go through a buffer: what the file holds,
followed by what is held back in front of it, amounts to the bytes that were put
in so far, whatever the pieces were (`Amounts`), and closing the file leaves
nothing behind (`run_writeLines`).
-/

namespace Criteria

namespace Environment

variable {σ : Type}

/-! ## Files -/

/-- What an endpoint has to give in a state. -/
def contentIn (environment : Environment (StateM σ)) (state : σ) :
    Endpoint → Stored
  | .standard => .file (environment.standardInput.run state).1
  | .file path => ((environment.find path).run state).1

/-- Whether a file can be created under a path. -/
def canCreate
    (environment : Environment (StateM σ)) (state : σ) (path : String) :
    Bool :=
  ((environment.create path).run state).1

/-- The state once a file was created under a path. -/
def afterCreate
    (environment : Environment (StateM σ)) (state : σ) (path : String) : σ :=
  ((environment.create path).run state).2

/-- The state once bytes were put at the end of a file. -/
def afterAppend
    (environment : Environment (StateM σ)) (state : σ) (path : String)
    (bytes : List UInt8) : σ :=
  ((environment.append path bytes).run state).2

/--
What a run relies on.  Looking at files and reading the standard input change
nothing; a file that is created is empty; bytes that are put at the end of a
file stand behind those that it holds; and neither changes what is given by an
endpoint that is apart from the file.
-/
structure KeepsFiles (environment : Environment (StateM σ))
    (apart : String → Endpoint → Prop) : Prop where
  find (path : String) (state : σ) :
    ((environment.find path).run state).2 = state
  standardInput (state : σ) : (environment.standardInput.run state).2 = state
  created {path : String} {state : σ}
    (can : environment.canCreate state path = true) :
    environment.contentIn (environment.afterCreate state path) (.file path) =
      .file []
  created_apart {path : String} {other : Endpoint} (away : apart path other)
    (state : σ) :
    environment.contentIn (environment.afterCreate state path) other =
      environment.contentIn state other
  appended {path : String} {state : σ} {bytes : List UInt8}
    (holds : environment.contentIn state (.file path) = .file bytes)
    (more : List UInt8) :
    environment.contentIn (environment.afterAppend state path more)
      (.file path) = .file (bytes ++ more)
  appended_apart {path : String} {other : Endpoint} (away : apart path other)
    (state : σ) (more : List UInt8) :
    environment.contentIn (environment.afterAppend state path more) other =
      environment.contentIn state other

variable {environment : Environment (StateM σ)}
variable {apart : String → Endpoint → Prop}
  {state origin : σ} {path : String}

theorem run_bind {α β : Type} (first : StateM σ α) (next : α → StateM σ β)
    (state : σ) :
    (first >>= next).run state =
      (next (first.run state).1).run (first.run state).2 := rfl

@[simp]
theorem run_pure {α : Type} (value : α) (state : σ) :
    (pure value : StateM σ α).run state = (value, state) := rfl

section

variable (keeps : environment.KeepsFiles apart)
include keeps

theorem KeepsFiles.run_find (path : String) (state : σ) :
    (environment.find path).run state =
      (environment.contentIn state (.file path), state) :=
  Prod.ext rfl (keeps.find path state)

theorem KeepsFiles.run_opens (endpoint : Endpoint) (state : σ) :
    (environment.opens endpoint).run state =
      ((environment.contentIn state endpoint).opens, state) := by
  cases endpoint with
  | standard => rfl
  | file path => rw [opens, run_bind, keeps.run_find, run_pure]

theorem KeepsFiles.run_readAll (endpoint : Endpoint) (state : σ) :
    (environment.readAll endpoint).run state =
      ((environment.contentIn state endpoint).bytes?, state) := by
  cases endpoint with
  | standard =>
      rw [readAll, run_bind, run_pure, keeps.standardInput]
      rfl
  | file path => rw [readAll, run_bind, keeps.run_find, run_pure]

end

/-! ## The buffer in front of a file -/

/--
A file with what is held back in front of it amounts to some bytes, and nothing
apart from it has changed since an earlier state.
-/
structure Amounts (environment : Environment (StateM σ))
    (apart : String → Endpoint → Prop) (origin : σ) (path : String)
    (state : σ) (buffer : FileBuffer) (bytes : List UInt8) : Prop where
  file : ∃ written,
    environment.contentIn state (.file path) = .file written ∧
      written ++ buffer.held = bytes
  others : ∀ other, apart path other →
    environment.contentIn state other = environment.contentIn origin other

/--
An action on a buffer adds bytes: whatever a file with its buffer amounts to
before the action, it amounts to that and these bytes afterwards.
-/
def Adds (environment : Environment (StateM σ))
    (apart : String → Endpoint → Prop) (path : String)
    (action : FileBuffer → StateM σ FileBuffer) (added : List UInt8) : Prop :=
  ∀ origin state buffer bytes,
    environment.Amounts apart origin path state buffer bytes →
      environment.Amounts apart origin path ((action buffer).run state).2
        ((action buffer).run state).1 (bytes ++ added)

variable {buffer : FileBuffer} {bytes : List UInt8}

theorem Adds.bind
    {first next : FileBuffer → StateM σ FileBuffer} {front back : List UInt8}
    (firstAdds : environment.Adds apart path first front)
    (nextAdds : environment.Adds apart path next back) :
    environment.Adds apart path (fun buffer => first buffer >>= next)
      (front ++ back) := by
  intro origin state buffer bytes amounts
  rw [run_bind, ← List.append_assoc]
  exact nextAdds _ _ _ _ (firstAdds _ _ _ _ amounts)

section

variable (keeps : environment.KeepsFiles apart)
include keeps

/-- A file just created is empty, and nothing is held back in front of it. -/
theorem amounts_created (can : environment.canCreate state path = true) :
    environment.Amounts apart state path (environment.afterCreate state path)
      .empty [] :=
  ⟨⟨[], keeps.created can, rfl⟩,
    fun _ away => keeps.created_apart away state⟩

/-- Bytes behind a file with nothing held back in front of it. -/
theorem Amounts.append
    (amounts : environment.Amounts apart origin path state buffer bytes)
    (nothing : buffer.held = []) (more : List UInt8) :
    environment.Amounts apart origin path
      (environment.afterAppend state path more) buffer (bytes ++ more) := by
  rcases amounts.file with ⟨written, holds, rfl⟩
  refine ⟨⟨written ++ more, keeps.appended holds more, ?_⟩,
    fun other away => ?_⟩
  · rw [nothing, List.append_nil, List.append_nil]
  · rw [keeps.appended_apart away state more, amounts.others other away]

theorem Amounts.flush
    (amounts : environment.Amounts apart origin path state buffer bytes) :
    environment.Amounts apart origin path
      (environment.afterAppend state path buffer.held) .empty bytes := by
  rcases amounts.file with ⟨written, holds, rfl⟩
  refine ⟨⟨_, keeps.appended holds buffer.held, List.append_nil _⟩,
    fun other away => ?_⟩
  rw [keeps.appended_apart away state buffer.held, amounts.others other away]

theorem adds_makeRoom (needed : Nat) :
    environment.Adds apart path
      (fun buffer => buffer.makeRoom (environment.append path) needed) [] := by
  intro origin state buffer bytes amounts
  rw [List.append_nil]
  simp only [FileBuffer.makeRoom]
  split
  · exact amounts.flush keeps
  · exact amounts

omit keeps in
/-- In front of a piece as long as the buffer nothing is held back. -/
theorem held_makeRoom {needed : Nat} (long : FileBuffer.capacity ≤ needed)
    (buffer : FileBuffer) (state : σ) :
    ((buffer.makeRoom (environment.append path) needed).run state).1.held =
      [] := by
  simp only [FileBuffer.makeRoom]
  split
  · rfl
  · rename_i fits
    refine List.eq_nil_of_length_eq_zero ?_
    change buffer.held.length = 0
    omega

/-- Putting in a piece adds that piece, whichever way it goes. -/
theorem adds_put (piece : List UInt8) :
    environment.Adds apart path
      (fun buffer => buffer.put (environment.append path) piece) piece := by
  intro origin state buffer bytes amounts
  -- A piece that is held back moves the end of the bytes, but not of the file.
  have holdBack {state : σ} {buffer : FileBuffer}
      (amounts : environment.Amounts apart origin path state buffer bytes) :
      environment.Amounts apart origin path state ⟨buffer.held ++ piece⟩
        (bytes ++ piece) := by
    rcases amounts.file with ⟨written, holds, rfl⟩
    exact ⟨⟨written, holds, (List.append_assoc _ _ _).symm⟩, amounts.others⟩
  simp only [FileBuffer.put]
  split
  · exact holdBack amounts
  · have room := adds_makeRoom keeps piece.length _ _ _ _ amounts
    rw [List.append_nil] at room
    rw [run_bind]
    split
    · exact holdBack room
    · rename_i long
      exact room.append keeps
        (held_makeRoom (Nat.le_of_not_lt long) buffer state) piece

theorem adds_putLine (line : String) :
    environment.Adds apart path
      (fun buffer => environment.putLine path buffer line)
      (bytesOfText line ++ bytesOfText "\n") :=
  (adds_put keeps _).bind (adds_put keeps _)

theorem adds_putLines (lines : List String) :
    environment.Adds apart path
      (fun buffer => lines.foldlM (environment.putLine path) buffer)
      (lines.flatMap fun line => bytesOfText line ++ bytesOfText "\n") := by
  induction lines with
  | nil =>
      intro origin state buffer bytes amounts
      rwa [List.flatMap_nil, List.append_nil]
  | cons line lines ih =>
      simp only [List.foldlM_cons, List.flatMap_cons]
      exact (adds_putLine keeps line).bind ih

/-- Once it is closed, a file holds the lines that were written. -/
theorem run_writeLines
    (can : environment.canCreate state path = true) (lines : List String) :
    environment.Amounts apart state path
      ((environment.writeLines path lines).run
        (environment.afterCreate state path)).2 .empty
      (lines.flatMap fun line => bytesOfText line ++ bytesOfText "\n") :=
  (adds_putLines keeps lines _ _ _ _ (amounts_created keeps can)).flush keeps

end

end Environment

/-! ## Directories -/

namespace Directory

variable {directory : Directory} {path name : String} {bytes : List UInt8}

theorem lookup_put_self :
    (directory.put name bytes).files.lookup name = some bytes := by
  rw [put, List.lookup_cons_self]

theorem lookup_put_of_ne {other : String} (different : other ≠ name) :
    (directory.put name bytes).files.lookup other =
      directory.files.lookup other := by
  rw [put, List.lookup_cons, beq_eq_false_iff_ne.mpr different]
  dsimp only
  rw [Entries.lookup_filter (· != name), if_pos (bne_iff_ne.mpr different)]

theorem fileName?_eq_some_iff :
    fileName? path = some name ↔
      isAbsolute path = false ∧ path.endsWith "/" = false ∧
        partsOf path = [name] ∧ name ≠ ".." := by
  rw [fileName?]
  cases isAbsolute path with
  | true => simp
  | false =>
      cases path.endsWith "/" with
      | true => simp
      | false =>
          simp only [Bool.or_false, Bool.false_eq_true, if_false, true_and]
          split
          · rename_i up
            simpa only [up, reduceCtorEq, List.cons.injEq, and_true, false_iff,
              not_and, not_not] using Eq.symm
          · rename_i first notUp parts
            simp only [parts, Option.some.injEq, List.cons.injEq, and_true]
            exact ⟨fun same => ⟨same, fun up => notUp (same.trans up)⟩,
              And.left⟩
          · rename_i single
            exact iff_of_false nofun fun only => single _ only.1

/-- A file is found by a path that leads to the name it is held under. -/
theorem find_eq_file_iff :
    directory.find path = .file bytes ↔
      ∃ name, fileName? path = some name ∧
        directory.files.lookup name = some bytes := by
  simp only [fileName?_eq_some_iff]
  rw [find]
  split
  · rename_i empty
    rw [String.isEmpty_iff] at empty
    subst empty
    exact iff_of_false nofun fun ⟨_, ⟨_, _, single, _⟩, _⟩ => nomatch single
  · split
    · rename_i parts
      simp only [parts, reduceCtorEq, false_and, and_false, exists_false]
    · rename_i parts
      refine iff_of_false nofun fun ⟨_, ⟨_, _, single, notUp⟩, _⟩ => ?_
      rw [parts] at single
      cases single
      exact notUp rfl
    · rename_i first below notUp parts
      constructor
      · -- Of all ways through the cases a single one comes to a file.
        intro found
        split at found
        · cases found
        · rename_i relative
          split at found
          · cases found
          · rename_i held
            split at found
            · rename_i last
              rw [Bool.and_eq_true, List.isEmpty_iff, Bool.not_eq_true'] at last
              rcases last with ⟨rfl, inside⟩
              cases found
              exact ⟨first, ⟨Bool.eq_false_iff.mpr relative, inside, parts,
                fun up => notUp up rfl⟩, held⟩
            · cases found
      · rintro ⟨name, ⟨relative, inside, single, _⟩, held⟩
        rw [parts] at single
        cases single
        rw [relative, if_neg Bool.false_ne_true, held, inside]
        rfl

/-- Only the first part of a path is looked up in a directory. -/
theorem find_congr {other : Directory}
    (same : ∀ name, (partsOf path).head? = some name →
      directory.files.lookup name = other.files.lookup name) :
    directory.find path = other.find path := by
  rw [find, find]
  split
  · rfl
  · split
    · rfl
    · rfl
    · rename_i name below _ parts
      rw [same name (congrArg List.head? parts)]

/-- An endpoint is apart from a file if it does not lead to the same name. -/
def Apart (path : String) : Endpoint → Prop
  | .standard => True
  | .file other => (partsOf other).head? ≠ fileName? path

instance (path : String) : (other : Endpoint) → Decidable (Apart path other)
  | .standard => inferInstanceAs (Decidable True)
  | .file _ => inferInstanceAs (Decidable (_ ≠ _))

/-- The directory once a file was created under a path, if there may be one. -/
theorem afterCreate_environment (standardInput : List UInt8)
    (directory : Directory) (path : String) :
    (environment standardInput).afterCreate directory path =
      ((fileName? path).map
        fun name => directory.put name []).getD directory := by
  change (((environment standardInput).create path).run directory).2 = _
  simp only [environment, write?]
  cases fileName? path <;> rfl

theorem canCreate_environment (standardInput : List UInt8)
    (directory : Directory) (path : String) :
    (environment standardInput).canCreate directory path =
      (fileName? path).isSome := by
  change (((environment standardInput).create path).run directory).1 = _
  simp only [environment, write?]
  cases fileName? path <;> rfl

theorem afterAppend_environment (standardInput : List UInt8)
    (directory : Directory) (path : String) (bytes : List UInt8) :
    (environment standardInput).afterAppend directory path bytes =
      ((fileName? path).map fun name =>
        directory.put name
          ((directory.files.lookup name).getD [] ++ bytes)).getD
            directory := rfl

theorem contentIn_environment (standardInput : List UInt8)
    (directory : Directory) (path : String) :
    (environment standardInput).contentIn directory (.file path) =
      directory.find path := rfl

/-- Putting bytes into a file does not change what is found apart from it. -/
theorem contentIn_put_of_apart {standardInput : List UInt8} {other : Endpoint}
    (away : Apart path other) (contents : String → List UInt8) :
    (environment standardInput).contentIn
        (((fileName? path).map fun name =>
          directory.put name (contents name)).getD directory) other =
      (environment standardInput).contentIn directory other := by
  cases other with
  | standard => rfl
  | file other =>
      cases leads : fileName? path with
      | none => rfl
      | some name =>
          refine find_congr fun first leadsOther => lookup_put_of_ne ?_
          rintro rfl
          exact away (leadsOther.trans leads.symm)

/-- The files of a directory obey the laws. -/
theorem keepsFiles (standardInput : List UInt8) :
    (environment standardInput).KeepsFiles Apart where
  find _ _ := rfl
  standardInput _ := rfl
  created {path directory} can := by
    rw [canCreate_environment] at can
    rcases Option.isSome_iff_exists.mp can with ⟨name, leads⟩
    rw [afterCreate_environment, leads, contentIn_environment, find_eq_file_iff]
    exact ⟨name, leads, lookup_put_self⟩
  created_apart away directory := by
    rw [afterCreate_environment]
    exact contentIn_put_of_apart away _
  appended {path directory bytes} holds more := by
    rcases find_eq_file_iff.mp holds with ⟨name, leads, held⟩
    rw [afterAppend_environment, leads, contentIn_environment, find_eq_file_iff,
      Option.map_some, Option.getD_some, held, Option.getD_some]
    exact ⟨name, leads, lookup_put_self⟩
  appended_apart away directory more := by
    rw [afterAppend_environment]
    exact contentIn_put_of_apart away _

end Directory

end Criteria
