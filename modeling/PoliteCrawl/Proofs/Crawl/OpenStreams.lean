import PoliteCrawl.Crawl.Streams
import PoliteCrawl.Proofs.Output.Envelope

namespace PoliteCrawl

namespace Disk

variable {d d' : Disk} {path other : String}

@[simp] theorem content?_put (d : Disk) (path : String) (bytes : List UInt8) :
    (d.put path bytes).content? path = some bytes := by
  simp [content?, put]

theorem content?_put_of_ne (d : Disk) (bytes : List UInt8) (h : other ≠ path) :
    (d.put path bytes).content? other = d.content? other := by
  have hne : (other == path) = false := beq_false_of_ne h
  simp only [content?, put, List.lookup_cons, hne]
  -- The other entries are those that `put` keeps.
  induction d.files with
  | nil => rfl
  | cons file files ih =>
    obtain ⟨name, content⟩ := file
    by_cases hname : name = path
    · subst hname
      rw [List.filter_cons_of_neg (by simp), List.lookup_cons, hne]
      exact ih
    · rw [List.filter_cons_of_pos (by simpa using hname), List.lookup_cons, List.lookup_cons, ih]

theorem create_eq_ok (h : d.create path = .ok d') :
    d'.content? path = some [] ∧ d'.device = d.device := by
  unfold create at h
  split at h
  · cases h
  · cases h
    exact ⟨content?_put d path [], rfl⟩

theorem ensure_eq_ok (h : d.ensure path = .ok d') :
    d'.device = d.device ∧ ∀ other ≠ path, d'.content? other = d.content? other := by
  unfold ensure at h
  split at h
  · cases h
  · cases h
    exact ⟨rfl, fun other hne => content?_put_of_ne d _ hne⟩

end Disk

namespace Surroundings

variable {w w' : Surroundings} {path : Option String} {e : CrawlError} {text : List Char}

/-- A text has been written to the output: it is all that the file holds, or it has been added to the
standard output. -/
def Shows (w : Surroundings) (path : Option String) (text : List Char) (w' : Surroundings) : Prop :=
  match path with
  | some path => w'.disk.content? path = some (String.ofList text).toUTF8.toList
  | none => w'.output = w.output ++ text

/-- An output that has been opened and not been written to, in the place of one that was there. -/
structure Opened (w : Surroundings) (path : Option String) (w' : Surroundings) : Prop where
  empty : ∀ file, path = some file → w'.disk.content? file = some []
  output : w'.output = w.output
  device : w'.device path = w.device path

theorem Opened.shows_write (h : w.Opened path w') (text : List Char) :
    w.Shows path text (w'.write path text) := by
  cases path with
  | some file =>
    have hempty := h.empty file rfl
    simp only [Shows, write, Disk.append, Disk.content?_put, hempty, Option.getD_some,
      List.nil_append]
  | none =>
    simp only [Shows, write, h.output]

theorem Shows.write_other {file : String} (h : w.Shows path text w') (hne : path ≠ some file)
    (more : List Char) : w.Shows path text (w'.write (some file) more) := by
  cases path with
  | some output =>
    have hother : output ≠ file := fun heq => hne (congrArg some heq)
    exact (Disk.content?_put_of_ne w'.disk _ hother).trans h
  | none => exact h

/-- What it takes to do something to a file. -/
theorem onFile_eq_ok {f : Disk → String → Except String Disk} (h : w.onFile path f = .ok w') :
    (path = none ∧ w' = w) ∨
      ∃ file disk, path = some file ∧ f w.disk file = .ok disk ∧ w' = { w with disk } := by
  unfold onFile at h
  split at h
  · cases h
    exact .inl ⟨rfl, rfl⟩
  · rename_i file
    split at h
    · rename_i disk hdisk
      cases h
      exact .inr ⟨file, disk, rfl, hdisk, rfl⟩
    · cases h

theorem onFile_eq_error {f : Disk → String → Except String Disk} (h : w.onFile path f = .error e) :
    ∃ file reason, path = some file ∧ e = .openFile file reason := by
  unfold onFile at h
  split at h
  · cases h
  · rename_i file
    split at h <;> cases h
    exact ⟨file, _, rfl, rfl⟩

theorem onFile_read (h : (w.onFile path fun d file => (d.read file).map fun _ => d) = .ok w') :
    w' = w := by
  rcases onFile_eq_ok h with ⟨-, heq⟩ | ⟨file, disk, -, hread, rfl⟩
  · exact heq
  · cases hfile : w.disk.read file with
    | ok bytes =>
      simp only [hfile, Except.map, Except.ok.injEq] at hread
      rw [← hread]
    | error reason => simp only [hfile, Except.map, reduceCtorEq] at hread

theorem onFile_create (h : w.onFile path Disk.create = .ok w') : w.Opened path w' := by
  rcases onFile_eq_ok h with ⟨rfl, rfl⟩ | ⟨file, disk, rfl, hcreate, rfl⟩
  · exact ⟨by simp, rfl, rfl⟩
  · obtain ⟨hempty, hdevice⟩ := Disk.create_eq_ok hcreate
    refine ⟨?_, rfl, congrFun hdevice file⟩
    rintro _ ⟨⟩
    exact hempty

theorem Opened.onFile_ensure {w'' : Surroundings} {other : Option String} (h : w.Opened path w')
    (hensure : w'.onFile other Disk.ensure = .ok w'')
    (hapart : ∀ file, path = some file → other ≠ some file) : w.Opened path w'' := by
  rcases onFile_eq_ok hensure with ⟨-, rfl⟩ | ⟨other, disk, rfl, hdisk, rfl⟩
  · exact h
  · obtain ⟨hdevice, hothers⟩ := Disk.ensure_eq_ok hdisk
    refine ⟨?_, h.output, ?_⟩
    · intro file hfile
      have hne : file ≠ other := fun heq => hapart file hfile (congrArg some heq.symm)
      exact (hothers file hne).trans (h.empty file hfile)
    · rw [← h.device]
      cases path with
      | some file => exact congrFun hdevice file
      | none => rfl

theorem onFile_device {f : Disk → String → Except String Disk}
    (hf : ∀ {d d' : Disk} {file : String}, f d file = .ok d' → d'.device = d.device)
    (h : w.onFile path f = .ok w') : w'.disk.device = w.disk.device := by
  rcases onFile_eq_ok h with ⟨-, rfl⟩ | ⟨file, disk, -, hdisk, rfl⟩
  · rfl
  · exact hf hdisk

variable {s : StreamSettings}

/-- If the input or the output cannot be opened nothing has happened. If the stream of items to be
tried again cannot, the envelope has been started. -/
theorem openStreams_eq_error (h : w.openStreams s = .error (e, w'))
    (hwilling : Sink.Willing { toDevice := w.device s.outputPath }) :
    (∃ file reason, (s.inputPath = some file ∨ s.outputPath = some file) ∧
      e = .openFile file reason ∧ w' = w) ∨
    ∃ file reason, s.requeuePath = some file ∧ e = .openFile file reason ∧
      w.Shows s.outputPath Envelope.opening.toList w' := by
  unfold openStreams at h
  split at h
  · rename_i hinput
    cases h
    obtain ⟨file, reason, hpath, rfl⟩ := onFile_eq_error hinput
    exact .inl ⟨file, reason, .inl hpath, rfl, rfl⟩
  · rename_i read hinput
    obtain rfl := onFile_read hinput
    split at h
    · rename_i houtput
      cases h
      obtain ⟨file, reason, hpath, rfl⟩ := onFile_eq_error houtput
      exact .inl ⟨file, reason, .inr hpath, rfl, rfl⟩
    · rename_i created houtput
      split at h
      · rename_i hrequeue
        cases h
        have hopened := onFile_create houtput
        obtain ⟨file, reason, hpath, rfl⟩ := onFile_eq_error hrequeue
        refine .inr ⟨file, reason, hpath, rfl, ?_⟩
        have hwritable : (created.envelope s).Writable := by
          apply Envelope.writable_start
          rw [hopened.device]
          exact hwilling
        -- The opening text waits in the buffer, and arrives when the envelope is given up.
        have htext : (created.envelope s).finalText = Envelope.opening.toList :=
          hwritable.finalText
        rw [htext]
        exact hopened.shows_write _
      · cases h

/-- To open the streams is to make the output and to have the other one, if there is one. -/
theorem onFile_of_openStreams (h : w.openStreams s = .ok w') :
    ∃ created, w.onFile s.outputPath Disk.create = .ok created ∧
      created.onFile s.requeuePath Disk.ensure = .ok w' := by
  unfold openStreams at h
  split at h
  · cases h
  · rename_i read hinput
    obtain rfl := onFile_read hinput
    split at h
    · cases h
    · rename_i created houtput
      split at h
      · cases h
      · rename_i ensured hrequeue
        cases h
        exact ⟨created, houtput, hrequeue⟩

theorem openStreams_eq_ok (h : w.openStreams s = .ok w')
    (hapart : ∀ file, s.outputPath = some file → s.requeuePath ≠ some file) :
    w.Opened s.outputPath w' := by
  obtain ⟨created, houtput, hrequeue⟩ := onFile_of_openStreams h
  exact (onFile_create houtput).onFile_ensure hrequeue hapart

theorem device_of_openStreams (h : w.openStreams s = .ok w') : w'.disk.device = w.disk.device := by
  obtain ⟨created, houtput, hrequeue⟩ := onFile_of_openStreams h
  have hcreated := onFile_device (fun h => (Disk.create_eq_ok h).2) houtput
  have hensured := onFile_device (fun h => (Disk.ensure_eq_ok h).1) hrequeue
  exact hensured.trans hcreated

theorem Opened.shows_leave (h : w.Opened s.outputPath w') (report : CrawlReport)
    (hapart : ∀ file, s.outputPath = some file → s.requeuePath ≠ some file) :
    w.Shows s.outputPath report.envelope.finalText (w'.leave s report) := by
  have hshows := h.shows_write report.envelope.finalText
  unfold leave
  cases hpath : s.requeuePath with
  | some file => exact hshows.write_other (fun heq => hapart file heq hpath) _
  | none => exact hshows

end Surroundings

end PoliteCrawl
