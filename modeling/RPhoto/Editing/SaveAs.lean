import RPhoto.Editing.SampleWorld

/-!
# Saving under another name

`ImageSaveAs` first leaves the temporary file, and then copies the working file or
encodes the displayed image.  The copy can be one of an older picture, and the
encoder is chosen by the name of the working file instead of the new name.  A
comment that has not been written makes the document dirty again at once, and the
clean-up at the end may then save again without end.
-/

namespace RPhoto.Editing

open RPhoto.Jpeg RPhoto.Library

variable {Pixels Format : Type} {wx : Wx Pixels}

/-- The file formats of wxWidgets: what a file is in, and what an encoder writes. -/
structure Formats (wx : Wx Pixels) (Format : Type) where
  ofData : Bytes → Option Format
  ofType : ImageType → Option Format
  encodes : ∀ {type : ImageType} {image : Image Pixels} {format : Format},
    ofType type = some format →
      ∃ data, wx.encode type image = some data ∧ ofData data = some format
  writesJpeg : (ofType .jpeg).isSome = true

/-- The format that the extension of a name stands for. -/
def Formats.designated (formats : Formats wx Format) (name : FileName) : Option Format :=
  formats.ofType (.byExtension name)

/-- The working file once the temporary file is left. -/
def workingFilename (document : Document Pixels) : FileName :=
  if document.bTemp then document.sOriginalFilename else document.sFilename

/-- Whether `ImageSaveAs` makes a byte copy. -/
def copiesTo (name : FileName) (document : Document Pixels) : Bool :=
  !document.bDirty && document.bJPEGlossless && isJPEGFile document.sOriginalFilename &&
    isJPEGFile name

/-- The data are an encoding of the image, with or without the quality of the settings. -/
def EncodingOf (wx : Wx Pixels) (image : Image Pixels) (data : Bytes) : Prop :=
  ∃ type saved, saved.pixels = image.pixels ∧
    (saved.options = image.options ∨
      ∃ quality, saved.options = image.options.setOption .quality quality) ∧
    wx.encode type saved = some data

/-- The data are in the format of the name and show the displayed image. -/
structure ShowsAs (formats : Formats wx Format) (document : Document Pixels) (name : FileName)
    (data : Bytes) : Prop where
  format : formats.ofData data = formats.designated name
  copied : copiesTo name document = true → wx.decode data = document.image
  encoded : copiesTo name document = false →
    ∃ image, document.image = some image ∧ EncodingOf wx image data

/-- What a copy leaves under the name: without a working file, what was there before. -/
def copiedData (name : FileName) (document : Document Pixels) : Option Bytes :=
  (document.files.content (workingFilename document)).or (document.files.content name)

/-- What the copy or the encoder needs in order to write the displayed image. -/
def WritesShown (formats : Formats wx Format) (document : Document Pixels)
    (name : FileName) : Prop :=
  if copiesTo name document then
    ∃ data, copiedData name document = some data ∧
      formats.ofData data = formats.designated name ∧ wx.decode data = document.image
  else
    isJPEGFile (workingFilename document) = true → formats.ofType .jpeg = formats.designated name

/-- The automatic crop is off, and every copy and every save succeeds. -/
def Saving (env : Environment Pixels) : Prop :=
  ∀ frame, (env frame).bAutoCrop = false ∧ (env frame).copyFault = none ∧
    (env frame).saveFails = false

variable {env : Environment Pixels} {frame after : Frame Pixels} {name : FileName} {fuel : Nat}

@[simp] theorem leaveTemp_sFilename (frame : Frame Pixels) :
    (leaveTemp frame).sFilename = workingFilename frame.toDocument := rfl

@[simp] theorem copiesTo_leaveTemp (name : FileName) (frame : Frame Pixels) :
    copiesTo name (leaveTemp frame).toDocument = copiesTo name frame.toDocument := rfl

/-! ## The write -/

/-- A save with a pending comment leaves the document dirty, any other one clean. -/
theorem writeAs_flags (wx : Wx Pixels) (env : Environment Pixels) (name : FileName)
    (frame : Frame Pixels) :
    (writeAs wx env name frame).bDirty = frame.textCommentModified ∧
      (writeAs wx env name frame).textCommentModified = frame.textCommentModified := by
  unfold writeAs
  split <;> exact ⟨Bool.false_or _, rfl⟩

/-- The copy writes the content of the working file. -/
theorem writeAs_copy (saving : Saving env) (named : name ≠ noFile)
    (copies : copiesTo name frame.toDocument = true) :
    (writeAs wx env name (leaveTemp frame)).files.content name =
      copiedData name frame.toDocument := by
  have branch : copiesTo name (leaveTemp frame).toDocument = true := copies
  unfold copiesTo at branch
  rw [writeAs, if_pos branch]
  have noFault := (saving (leaveTemp frame)).2.1
  show (writeOutcome name (copyOutcome (env (leaveTemp frame)).copyFault name
    (frame.files.content (workingFilename frame.toDocument))).1 frame.files).content name = _
  rw [noFault, copiedData]
  cases frame.files.content (workingFilename frame.toDocument) with
  | none => rfl
  | some data => simp [copyOutcome, named, writeOutcome]

/-- The image that the encoder gets. -/
def savedImage (env : Env) (jpeg : Bool) (image : Image Pixels) : Image Pixels :=
  if jpeg then { image with options := image.options.setOption .quality (formatInt env.quality) }
  else image

theorem encodingOf_savedImage {answers : Env} {jpeg : Bool} {image : Image Pixels}
    {type : ImageType} {data : Bytes}
    (encoded : wx.encode type (savedImage answers jpeg image) = some data) :
    EncodingOf wx image data := by
  refine ⟨type, savedImage answers jpeg image, ?_, ?_, encoded⟩
  · cases jpeg <;> rfl
  · cases jpeg
    · exact .inl rfl
    · exact .inr ⟨_, rfl⟩

/-- The encoder is chosen by the name of the working file. -/
def encoderType (document : Document Pixels) (name : FileName) : ImageType :=
  if isJPEGFile (workingFilename document) then .jpeg else .byExtension name

/-- The encoder writes the displayed image in the format of its type. -/
theorem writeAs_encode (formats : Formats wx Format) (saving : Saving env) (named : name ≠ noFile)
    (encodes : copiesTo name frame.toDocument = false) {image : Image Pixels}
    (shown : frame.image = some image) (designated : (formats.designated name).isSome = true) :
    ∃ data, (writeAs wx env name (leaveTemp frame)).files = frame.files.write name data ∧
      EncodingOf wx image data ∧
      formats.ofData data = formats.ofType (encoderType frame.toDocument name) := by
  have branch : ¬copiesTo name (leaveTemp frame).toDocument = true := by simpa using encodes
  unfold copiesTo at branch
  have writes : (formats.ofType (encoderType frame.toDocument name)).isSome = true := by
    unfold encoderType
    split
    · exact formats.writesJpeg
    · exact designated
  obtain ⟨format, writes⟩ := Option.isSome_iff_exists.mp writes
  obtain ⟨data, encoded, inFormat⟩ := @Formats.encodes _ _ _ formats _
    (savedImage (env (leaveTemp frame)) (isJPEGFile (workingFilename frame.toDocument)) image) _
    writes
  refine ⟨data, ?_, encodingOf_savedImage encoded, inFormat.trans writes.symm⟩
  rw [writeAs, if_neg branch]
  show writeOutcome name
    (if (env (leaveTemp frame)).saveFails || decide (name = noFile) then none
      else (frame.image.map (savedImage (env (leaveTemp frame))
        (isJPEGFile (workingFilename frame.toDocument)))).bind
          (wx.encode (encoderType frame.toDocument name))) frame.files = _
  rw [(saving (leaveTemp frame)).2.2, decide_eq_false named, shown]
  exact congrArg (writeOutcome name · frame.files) encoded

/-! ## The clean-up after the write -/

/-- Without a pending comment the call returns what was written. -/
theorem imageSaveAs_of_settled (saving : Saving env) (named : name ≠ noFile)
    (settled : frame.textCommentModified = false) (fuel : Nat) :
    imageSaveAs wx env (fuel + 2) name frame =
      some { writeAs wx env name (leaveTemp frame) with
        sFilename := name, sOriginalFilename := name } := by
  have clean : (writeAs wx env name (leaveTemp frame)).bDirty = false :=
    (writeAs_flags wx env name (leaveTemp frame)).1.trans settled
  simp [imageSaveAs, imageCleanup, autoCrop, saving (writeAs wx env name (leaveTemp frame)), named,
    clean]

theorem appendName_ne {file : FileName} {suffix : String} (visible : suffix ≠ "") :
    (file.appendName suffix).fullName ≠ "" := by
  intro empty
  have letters := String.ofList_eq_empty_iff.mp empty
  simp only [List.append_eq_nil_iff, String.toList_eq_nil_iff] at letters
  exact visible letters.1.2

/-- An automatic save under another name has a name. -/
theorem autoSaveName_ne_noFile {original : FileName} {folder : AutoSaveFolder} {suffix : String}
    (visible : suffix ≠ "") : autoSaveName original folder suffix ≠ noFile := by
  have fullName : (autoSaveName original folder suffix).fullName =
      (original.appendName suffix).fullName := by
    cases folder <;> rfl
  intro unnamed
  exact appendName_ne visible (fullName.symm.trans (congrArg FileName.fullName unnamed))

/-- With automatic saves under another name, a pending comment makes the call save again and
again. -/
theorem imageSaveAs_of_pending
    (endless : ∀ frame, (env frame).bAutoCrop = false ∧ (env frame).bAutoSave = true ∧
      (env frame).sAutoSaveSuffix ≠ "")
    (fuel : Nat) {name : FileName} {frame : Frame Pixels} (named : name ≠ noFile)
    (pending : frame.textCommentModified = true) : imageSaveAs wx env fuel name frame = none := by
  induction fuel using Nat.strong_induction_on generalizing name frame with
  | _ fuel ih =>
      obtain ⟨dirty, still⟩ := writeAs_flags wx env name (leaveTemp frame)
      generalize saved : writeAs wx env name (leaveTemp frame) = written at dirty still
      obtain ⟨noCrop, autoSave, suffix⟩ := endless written
      match fuel with
      | 0 => rfl
      | 1 => simp [imageSaveAs, imageCleanup, named]
      | fuel + 2 =>
          have next : autoSaveName written.sOriginalFilename (env written).sAutoSaveFolder
              (env written).sAutoSaveSuffix ≠ noFile := autoSaveName_ne_noFile suffix
          have again := ih fuel (by omega) next (still.trans pending)
          simp [imageSaveAs, imageCleanup, autoCrop, named, noCrop, autoSave, suffix, again,
            dirty.trans pending, saved]

/-! ## What the call writes -/

/-- A world that saves automatically under names with a suffix. -/
def suffixEnv : Environment Pixels := fun _ =>
  { sampleEnv 10 (emptyFrame sampleFiles) with bAutoSave := true, sAutoSaveSuffix := "-x" }

theorem suffixEnv_saving : Saving (suffixEnv : Environment Pixels) := by
  intro frame
  exact ⟨rfl, rfl, rfl⟩

theorem suffix_visible : "-x" ≠ "" := by decide

/-- The written file shows the displayed image exactly when the copy or the encoder can. -/
theorem writeAs_shows_iff (formats : Formats wx Format) (saving : Saving env)
    (named : name ≠ noFile) {image : Image Pixels} (shown : frame.image = some image)
    (designated : (formats.designated name).isSome = true) :
    (∃ data, (writeAs wx env name (leaveTemp frame)).files.content name = some data ∧
        ShowsAs formats frame.toDocument name data) ↔
      WritesShown formats frame.toDocument name := by
  unfold WritesShown
  cases copies : copiesTo name frame.toDocument with
  | true =>
      rw [if_pos rfl, writeAs_copy saving named copies]
      constructor
      · rintro ⟨data, present, shows⟩
        exact ⟨data, present, shows.format, shows.copied copies⟩
      · rintro ⟨data, present, format, copied⟩
        exact ⟨data, present, format, fun _ => copied,
          fun encodes => absurd (copies.symm.trans encodes) (by decide)⟩
  | false =>
      obtain ⟨data, files, encoding, format⟩ :=
        writeAs_encode formats saving named copies shown designated
      rw [if_neg (by decide), files, FileStore.content_write_self]
      have chosen : formats.ofType (encoderType frame.toDocument name) =
          formats.designated name ↔
            (isJPEGFile (workingFilename frame.toDocument) = true →
              formats.ofType .jpeg = formats.designated name) := by
        unfold encoderType
        split
        · simp_all
        · simp_all [Formats.designated]
      rw [← chosen, ← format]
      constructor
      · rintro ⟨_, written, shows⟩
        cases written
        exact shows.format
      · intro right
        exact ⟨data, rfl, right, fun copied => absurd (copies.symm.trans copied) (by decide),
          fun _ => ⟨image, shown, encoding⟩⟩

/--
In every world that crops nothing automatically and in which writing succeeds: the
call returns and leaves the displayed image in the format of the new name exactly
when no comment is pending and the copy or the encoder it chooses can do that.
-/
theorem imageSaveAs_shows_iff (formats : Formats wx Format) (frame : Frame Pixels)
    (name : FileName) (named : name ≠ noFile)
    (designated : (formats.designated name).isSome = true)
    (shown : frame.image.isSome = true) :
    (∀ env : Environment Pixels, Saving env → ∃ fuel after data,
        imageSaveAs wx env fuel name frame = some after ∧
        after.files.content name = some data ∧ ShowsAs formats frame.toDocument name data) ↔
      frame.textCommentModified = false ∧ WritesShown formats frame.toDocument name := by
  obtain ⟨image, shown⟩ := Option.isSome_iff_exists.mp shown
  constructor
  · intro works
    have settled : frame.textCommentModified = false := by
      by_contra pending
      obtain ⟨fuel, after, data, returned, -⟩ := works suffixEnv suffixEnv_saving
      have endless := @imageSaveAs_of_pending _ wx suffixEnv
        (fun _ => ⟨rfl, rfl, suffix_visible⟩) fuel name frame named (by simpa using pending)
      rw [endless] at returned
      cases returned
    obtain ⟨fuel, after, data, returned, present, shows⟩ := works suffixEnv suffixEnv_saving
    refine ⟨settled, (writeAs_shows_iff formats suffixEnv_saving named shown designated).mp ?_⟩
    match fuel with
    | 0 => cases returned
    | 1 => simp [imageSaveAs, imageCleanup, named] at returned
    | fuel + 2 =>
        rw [imageSaveAs_of_settled suffixEnv_saving named settled] at returned
        cases returned
        exact ⟨data, present, shows⟩
  · rintro ⟨settled, writes⟩ env saving
    obtain ⟨data, present, shows⟩ :=
      (writeAs_shows_iff formats saving named shown designated).mpr writes
    exact ⟨2, _, data, imageSaveAs_of_settled saving named settled 0, present, shows⟩

/-- The small world has one format. -/
def sampleFormats : Formats sampleWx Unit where
  ofData := fun _ => some ()
  ofType := fun _ => some ()
  encodes := fun _ => ⟨_, rfl, rfl⟩
  writesJpeg := rfl

/-- The condition at work: a photo that has only been loaded. -/
theorem imageSaveAs_shows_loaded :
    (sampleFrame 10 [.imageLoad photoA true]).textCommentModified = false ∧
      ∀ env : Environment Bytes, Saving env → ∃ fuel after data,
        imageSaveAs sampleWx env fuel ⟨["c"], "q.jpg"⟩ (sampleFrame 10 [.imageLoad photoA true]) =
            some after ∧
          after.files.content ⟨["c"], "q.jpg"⟩ = some data ∧
          ShowsAs sampleFormats (sampleFrame 10 [.imageLoad photoA true]).toDocument
            ⟨["c"], "q.jpg"⟩ data :=
  ⟨by decide, (imageSaveAs_shows_iff sampleFormats (sampleFrame 10 [.imageLoad photoA true])
    ⟨["c"], "q.jpg"⟩ (by decide) rfl (by decide)).mpr
      ⟨by decide, [1], by decide, rfl, by decide⟩⟩

/-- After a lossless flip the copy is one of the photo before the flip. -/
theorem imageSaveAs_forgets_flip :
    ∃ frame after : Frame Bytes,
      sampleRun 10 [.imageLoad photoA true, .imageFlipVertical] = some frame ∧
      Saving (sampleEnv 10) ∧
      imageSaveAs sampleWx (sampleEnv 10) 2 ⟨["c"], "q.jpg"⟩ frame = some after ∧
      frame.image = some ⟨[1, 100], []⟩ ∧
      copiesTo ⟨["c"], "q.jpg"⟩ frame.toDocument = true ∧
      after.files.content ⟨["c"], "q.jpg"⟩ = some [1] ∧
      sampleWx.decode [1] ≠ frame.image :=
  ⟨_, _, rfl, fun _ => ⟨rfl, rfl, rfl⟩, rfl, by decide, by decide, by decide, by decide⟩

/-- The small world with an encoder for JPEG data and one for all other names. -/
def typedWx : Wx Bytes :=
  { sampleWx with
    encode := fun type image => some ((if type = .jpeg then 1 else 0) :: image.pixels) }

/-- The formats are named by the first byte. -/
def typedFormats : Formats typedWx UInt8 where
  ofData := List.head?
  ofType := fun type => some (if type = .jpeg then 1 else 0)
  encodes := fun same => ⟨_, rfl, same⟩
  writesJpeg := rfl

/-- A JPEG photo saved as a PNG file is given to the JPEG encoder. -/
theorem imageSaveAs_keeps_encoder :
    ∃ after data,
      imageSaveAs typedWx (sampleEnv 10) 2 ⟨["c"], "q.png"⟩
          (sampleFrame 10 [.imageLoad photoA true]) = some after ∧
      after.files.content ⟨["c"], "q.png"⟩ = some data ∧
      typedFormats.ofData data = typedFormats.ofType .jpeg ∧
      ¬ShowsAs typedFormats (sampleFrame 10 [.imageLoad photoA true]).toDocument
        ⟨["c"], "q.png"⟩ data :=
  ⟨_, _, rfl, rfl, by decide, fun shows => absurd shows.format (by decide)⟩

end RPhoto.Editing
