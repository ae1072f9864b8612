import RPhoto.Editing.Metadata
import RPhoto.Editing.SampleWorld

/-!
# Metadata over loads and lossy operations

The options of the displayed image travel through one set of kept options, which
every lossy operation fills before it and applies after it.  Short of an undo the
displayed image has the options the last load left in the image box, but for a
comment written since.
-/

namespace RPhoto.Editing

open RPhoto.Jpeg RPhoto.Library

variable {Pixels : Type}

/-- A transformation carries an option over unchanged or loses it. -/
def CarriesOptions (wx : Wx Pixels) : Prop :=
  ∀ transform image name, (wx.transform transform image).options.getOption name = none ∨
    (wx.transform transform image).options.getOption name = image.options.getOption name

/-! ## Operations on the image -/

section Operations

variable {wx : Wx Pixels} {loads : Bool} (env : Environment Pixels) (frame : Frame Pixels)

theorem edits_dirty : Edits wx loads frame (dirty frame) := .silently rfl rfl rfl

theorem edits_updateControlsState : Edits wx loads frame (updateControlsState frame) :=
  .silently rfl rfl rfl

theorem edits_imageUndoPoint : Edits wx loads frame (imageUndoPoint env frame) := by
  unfold imageUndoPoint
  split
  · exact .refl frame
  · exact .entry rfl rfl rfl rfl

theorem beginImageManip_imageOpts :
    (beginImageManip env frame).imageOpts = keptOptions frame.image :=
  congrArg keptOptions (imageUndoPoint_image env frame)

theorem edits_beginImageManip : Edits wx loads frame (beginImageManip env frame) :=
  (edits_imageUndoPoint env frame).trans (.silently rfl rfl rfl)

theorem edits_switchToTemp : Edits wx loads frame (switchToTemp env frame) :=
  .entry rfl rfl rfl rfl

theorem edits_copyFile (source destination : FileName) :
    Edits wx loads frame (copyFile env source destination frame) :=
  .entry rfl rfl rfl rfl

theorem edits_copyToTemp : Edits wx loads frame (copyToTemp env frame).1 := by
  refine ((edits_imageUndoPoint env frame).trans (edits_switchToTemp env _)).trans ?_
  unfold copyToTemp
  dsimp only
  split
  · exact edits_copyFile env _ _ _
  · exact .entry rfl rfl rfl rfl

/-- A load of the working file. -/
theorem edits_boxLoadFile : Edits wx true frame (boxLoadFile wx frame.sFilename frame) := by
  have appended : added Frame.calls frame (boxLoadFile wx frame.sFilename frame) =
      [(.loadFile ((frame.files.content frame.sFilename).bind wx.decode).isSome,
        frame.toDocument)] := added_of_append rfl
  refine ⟨⟨by rw [Grows, appended]; rfl, .of_eq ?_, fun quiet => (nomatch quiet)⟩, rfl⟩
  rw [lastLoaded, appended]
  rfl

variable {env frame}

theorem edits_applyTool {call : Bool → Call} (tool : ∀ succeeded, (call succeeded).isLoad = false)
    (output : Option Bytes) : Edits wx true frame (applyTool wx call output frame).1 := by
  cases output with
  | none => exact .entry rfl (tool false) rfl rfl
  | some data =>
      let toolFrame : Frame Pixels :=
        { frame.record (call true) with files := frame.files.write frame.sFilename data }
      have written : Edits wx true frame toolFrame := .entry rfl (tool true) rfl rfl
      exact (written.trans (edits_boxLoadFile toolFrame)).trans (edits_updateControlsState _)

variable (env frame)

theorem edits_callJPEGTranTryPerfect (command : JpegtranCommand) :
    Edits wx true frame (callJPEGTranTryPerfect wx env command frame).1 := by
  have copied := @edits_copyToTemp _ wx true env frame
  unfold callJPEGTranTryPerfect
  dsimp only
  split
  · exact copied.trans (edits_applyTool (fun _ => rfl) _)
  · exact copied

theorem edits_callJHead (command : JheadCommand) :
    Edits wx true frame (callJHead wx env command frame).1 := by
  have copied := @edits_copyToTemp _ wx true env frame
  unfold callJHead
  dsimp only
  split
  · exact copied.trans (edits_applyTool (fun _ => rfl) _)
  · exact copied

variable (carries : CarriesOptions wx)

/-- Between `BEGIN_IMAGE_MANIP` and `END_IMAGE_MANIP`: the kept options make up for what a
transformation loses. -/
def Begun (wx : Wx Pixels) (begun : Frame Pixels) : Prop :=
  ∀ transform, SameMetadata
    (withImageOptions begun.imageOpts (begun.image.map (wx.transform transform))) begun.image

include carries in
theorem begun_beginImageManip : Begun wx (beginImageManip env frame) := by
  intro transform
  rw [beginImageManip_image, beginImageManip_imageOpts]
  exact sameMetadata_manip fun source id _ => carries transform source id

include carries in
theorem edits_imageManip (transform : Transform) :
    Edits wx loads frame (imageManip wx env transform frame) := by
  refine (edits_beginImageManip env frame).trans ?_
  refine imageManip_elim (motive := fun begun last => Begun wx begun → Edits wx loads begun last)
    ?_ (begun_beginImageManip env frame carries)
  exact fun begun ready => ⟨.silently rfl (ready transform), rfl⟩

include carries in
theorem edits_losslessOrManip (command : JpegtranCommand) (transform : Transform) :
    Edits wx frame.bJPEGlossless frame (losslessOrManip wx env command transform frame) := by
  unfold losslessOrManip
  split
  · rename_i lossless
    rw [lossless]
    exact edits_callJPEGTranTryPerfect env frame command
  · exact edits_imageManip env frame carries transform

include carries in
theorem edits_dirty_losslessOrManip (command : JpegtranCommand) (transform : Transform) :
    Edits wx frame.bJPEGlossless frame
      (losslessOrManip wx env command transform (dirty frame)) :=
  (edits_dirty frame).trans (edits_losslessOrManip env (dirty frame) carries command transform)

include carries in
theorem edits_onImageCrop : Edits wx frame.bJPEGlossless frame (onImageCrop wx env frame) := by
  unfold onImageCrop
  dsimp only
  split
  · exact edits_dirty_losslessOrManip env frame carries _ _
  · exact .refl frame

include carries in
/-- An inclination loads nothing, whatever the lossless flag. -/
theorem edits_inclineImage : Edits wx loads frame (inclineImage wx env frame) := by
  have recorded : Edits wx loads frame (frame.record .inclination) := .entry rfl rfl rfl rfl
  refine (recorded.trans (edits_beginImageManip env _)).trans ?_
  refine inclineImage_elim (motive := fun begun last => Begun wx begun → Edits wx loads begun last)
    ?_ (begun_beginImageManip env _ carries)
  exact fun begun dx dy ready => ⟨.silently rfl (ready (.rotate dx dy)), rfl⟩

include carries in
theorem edits_onImageInclin :
    Edits wx frame.bJPEGlossless frame (onImageInclin wx env frame) := by
  have inclined := @edits_inclineImage _ wx frame.bJPEGlossless env frame carries
  unfold onImageInclin
  dsimp only
  split
  · split
    · exact inclined.trans (inclined.flag ▸ edits_onImageCrop env _ carries)
    · exact inclined
  · exact .refl frame

include carries in
theorem edits_onToolAction : Edits wx frame.bJPEGlossless frame (onToolAction wx env frame) := by
  unfold onToolAction
  split
  · exact edits_onImageInclin env frame carries
  · exact edits_onImageCrop env frame carries

include carries in
theorem keepsMetadata_onModeInclin :
    KeepsMetadata wx frame.bJPEGlossless frame (onModeInclin wx env frame) := by
  unfold onModeInclin
  dsimp only
  split
  · exact ((edits_onImageInclin env frame carries).trans
      (edits_updateControlsState _)).toKeepsMetadata
  · split <;> exact .silently rfl (.refl _)

include carries in
theorem edits_onModeCrop : Edits wx frame.bJPEGlossless frame (onModeCrop wx env frame) := by
  unfold onModeCrop
  split
  · exact .silently rfl rfl rfl
  · exact (edits_onImageCrop env frame carries).trans (edits_updateControlsState _)

include carries in
/-- A resize is lossy in either mode. -/
theorem keepsMetadata_resize (destWidth destHeight : Int) :
    KeepsMetadata wx loads frame (resize wx env destWidth destHeight frame) := by
  refine (edits_beginImageManip env frame).toKeepsMetadata.trans ?_
  refine resize_elim (motive := fun begun last => Begun wx begun →
    KeepsMetadata wx loads begun last) ?_ ?_ (begun_beginImageManip env frame carries)
  · exact fun begun _ ready => .silently rfl (ready (.scale destWidth destHeight))
  · exact fun begun _ ready => .silently rfl (ready (.scale destWidth destHeight))

theorem keepsMetadata_onImageJPEGOptimize :
    KeepsMetadata wx true frame (onImageJPEGOptimize wx env frame) := by
  refine (edits_dirty frame).toKeepsMetadata.trans ?_
  unfold onImageJPEGOptimize
  dsimp only
  split
  · exact (edits_callJPEGTranTryPerfect env _ .optimize).toKeepsMetadata
  · exact (Edits.refl _).toKeepsMetadata

theorem keepsMetadata_onImageJPEGProgressive :
    KeepsMetadata wx true frame (onImageJPEGProgressive wx env frame) := by
  unfold onImageJPEGProgressive
  split
  · exact (edits_callJPEGTranTryPerfect env frame .progressive).toKeepsMetadata
  · exact (Edits.refl frame).toKeepsMetadata

/-! ## The comment -/

theorem edits_writeCommentLossless :
    Edits wx true frame (writeCommentLossless wx env frame) := by
  have pointed := (@edits_imageUndoPoint _ wx true env frame).trans (edits_switchToTemp env _)
  have called : Edits wx true (switchToTemp env (imageUndoPoint env frame))
      (callWrjpgcom wx env (sourceFilename (imageUndoPoint env frame).toDocument)
        (switchToTemp env (imageUndoPoint env frame))).1 := .entry rfl rfl rfl rfl
  refine (pointed.trans called).trans ?_
  unfold writeCommentLossless
  dsimp only
  split
  · exact (edits_boxLoadFile _).trans (edits_updateControlsState _)
  · exact (edits_copyFile env _ _ _).trans (edits_updateControlsState _)

theorem comments_writeCommentOption (lossy : frame.bJPEGlossless = false)
    (pending : frame.textCommentModified = true) :
    Comments wx frame (writeCommentOption wx env frame) := by
  have begun := @edits_beginImageManip _ wx false env frame
  have grows : Grows frame (writeCommentOption wx env frame) := begun.grows
  have nothing : NothingLoaded frame (writeCommentOption wx env frame) := begun.silent rfl
  refine ⟨grows, nothing, lossy, pending, ?_⟩
  have text : (beginImageManip env frame).textComment = frame.textComment :=
    imageUndoPoint_textComment env frame
  change SameMetadata (withImageOptions (beginImageManip env frame).imageOpts
    (commented wx (beginImageManip env frame).textComment (beginImageManip env frame).image)) _
  rw [text, beginImageManip_image, beginImageManip_imageOpts]
  exact sameMetadata_comment

/-- In lossy mode a pending comment goes into the options. -/
theorem comments_onImageWriteComment (lossy : frame.bJPEGlossless = false)
    (pending : frame.textCommentModified = true) :
    Comments wx frame (onImageWriteComment wx env frame) := by
  have written : Comments wx (dirty frame) (writeCommentOption wx env (dirty frame)) :=
    comments_writeCommentOption env (dirty frame) lossy pending
  have branch : writeComment wx env (dirty frame) = writeCommentOption wx env (dirty frame) :=
    if_neg (Bool.eq_false_iff.mp lossy)
  rw [onImageWriteComment, if_pos pending, branch]
  exact ((edits_dirty frame).comments written).keeps (.silently rfl (.refl _))

theorem mayComment_onImageWriteComment :
    MayComment wx frame (onImageWriteComment wx env frame) := by
  cases pending : frame.textCommentModified with
  | false =>
      rw [onImageWriteComment, if_neg (Bool.eq_false_iff.mp pending)]
      exact .inl (Edits.refl frame).toKeepsMetadata
  | true =>
      cases lossless : frame.bJPEGlossless with
      | false => exact .inr (comments_onImageWriteComment env frame lossless pending)
      | true =>
          have branch : writeComment wx env (dirty frame) =
              writeCommentLossless wx env (dirty frame) := if_pos lossless
          rw [onImageWriteComment, if_pos pending, branch]
          exact .inl (((edits_dirty frame).trans
            (edits_writeCommentLossless env _)).toKeepsMetadata.trans (.silently rfl (.refl _)))

theorem onImageWriteComment_textCommentModified :
    (onImageWriteComment wx env frame).textCommentModified = false := by
  unfold onImageWriteComment
  split
  · rfl
  · exact Bool.eq_false_iff.mpr ‹_›

end Operations

/-! ## Loading and saving -/

section LoadSave

variable {wx : Wx Pixels} {env : Environment Pixels} {loads : Bool} {fuel : Nat}
  {frame after : Frame Pixels}

/-- A load of a named file settles the metadata. -/
theorem keepsMetadata_openImage {first : Frame Pixels} (grows : Grows first frame)
    (name : FileName) (original : Bool) :
    KeepsMetadata wx true first (openImage wx name original frame) := by
  let named : Frame Pixels :=
    { frame with
      sFilename := name
      sOriginalFilename := if !frame.bTemp || original then name else frame.sOriginalFilename
      bTemp := if !frame.bTemp || original then false else frame.bTemp }
  have renamed : KeepsMetadata wx true frame named := .silently rfl (.refl _)
  have loaded := (@edits_boxLoadFile _ wx named).toKeepsMetadata
  have shown : KeepsMetadata wx true (boxLoadFile wx name named)
      (openImage wx name original frame) := .silently rfl (.refl _)
  refine .reloads grows ((renamed.trans loaded).trans shown) fun nothing => ?_
  have appended : added Frame.calls frame (openImage wx name original frame) =
      [(.loadFile ((frame.files.content name).bind wx.decode).isSome, named.toDocument)] :=
    added_of_append rfl
  have load := nothing _ (appended ▸ List.mem_cons_self)
  cases load

theorem edits_autoRotate : Edits wx true frame (autoRotate wx env frame) := by
  unfold autoRotate
  split
  · have recorded : Edits wx true frame
        { frame.record .autorotate with isAutorotating := true } := .entry rfl rfl rfl rfl
    exact (recorded.trans (edits_callJHead env _ .autorot)).trans (.silently rfl rfl rfl)
  · exact .refl frame

/-- The quality is not among the options that are saved. -/
theorem sameMetadata_quality {image : Option (Image Pixels)} {jpeg : Bool} {value : Text} :
    SameMetadata
      (image.map fun image =>
        if jpeg then { image with options := image.options.setOption .quality value } else image)
      image := by
  cases image with
  | none => exact .refl none
  | some image =>
      cases jpeg with
      | false => exact .refl _
      | true =>
          refine ⟨rfl, fun id toSave => Options.getOption_setOption_of_ne ?_⟩
          rintro rfl
          revert toSave
          decide

theorem edits_saveImage (name : FileName) :
    Edits wx loads frame (saveImage wx env name frame) :=
  ⟨.entry rfl rfl sameMetadata_quality, rfl⟩

theorem edits_leaveTemp : Edits wx loads frame (leaveTemp frame) := .silently rfl rfl rfl

theorem edits_clean : Edits wx loads frame (clean frame) := .silently rfl rfl rfl

theorem edits_saveLossless : Edits wx loads frame (saveLossless env frame) := by
  unfold saveLossless
  split
  · exact (edits_copyFile env frame _ _).trans edits_clean
  · exact edits_clean

theorem edits_saveLossy : Edits wx loads frame (saveLossy wx env frame) :=
  (edits_leaveTemp.trans (edits_saveImage _)).trans edits_clean

theorem edits_writeAs (name : FileName) : Edits wx loads frame (writeAs wx env name frame) := by
  unfold writeAs
  split
  · exact (edits_copyFile env frame _ _).trans edits_clean
  · exact (edits_saveImage name).trans edits_clean

/-- A pending comment is left alone, or written and no longer pending. -/
theorem writePendingComment_cases :
    writePendingComment wx env frame = frame ∨
      MayComment wx frame (writePendingComment wx env frame) ∧
        (writePendingComment wx env frame).textCommentModified = false := by
  unfold writePendingComment
  split
  · exact .inr ⟨mayComment_onImageWriteComment env frame,
      onImageWriteComment_textCommentModified env frame⟩
  · exact .inl rfl

/-- What follows the writing of a pending comment writes no second one. -/
theorem MayComment.afterPending
    (step : MayComment wx (writePendingComment wx env frame) after) :
    MayComment wx frame after := by
  rcases @writePendingComment_cases _ wx env frame with unwritten | ⟨written, none⟩
  · rwa [unwritten] at step
  · exact written.keeps (step.keepsMetadata none)

variable (carries : CarriesOptions wx)

include carries in
theorem edits_autoCrop : Edits wx frame.bJPEGlossless frame (autoCrop wx env frame) := by
  unfold autoCrop
  split
  · exact edits_onToolAction env frame carries
  · exact .refl frame

variable (wx env) in
/-- What the nested loads and saves with this much fuel do to the metadata. -/
structure EndsKept (fuel : Nat) : Prop where
  load : ∀ {frame after : Frame Pixels} {name : FileName} {original : Bool},
    imageLoad wx env fuel name original frame = some after → KeepsMetadata wx true frame after
  cleanup : ∀ {frame after : Frame Pixels} {cleaned : Bool},
    imageCleanup wx env fuel frame = some (after, cleaned) →
      MayComment wx frame after ∧ (cleaned = false → KeepsMetadata wx true frame after)
  save : ∀ {frame after : Frame Pixels},
    onFileSave wx env fuel frame = some after → MayComment wx frame after
  saveAs : ∀ {frame after : Frame Pixels},
    onFileSaveAs wx env fuel frame = some after → MayComment wx frame after
  imageSaveAs : ∀ {frame after : Frame Pixels} {name : FileName},
    imageSaveAs wx env fuel name frame = some after → MayComment wx frame after

section Nested

variable (ends : EndsKept wx env fuel)

include ends in
/-- A load that is not cancelled settles the metadata; a cancelled one has written no comment. -/
theorem endsKept_imageLoad {name : FileName} {original : Bool}
    (load : imageLoad wx env (fuel + 1) name original frame = some after) :
    KeepsMetadata wx true frame after := by
  cases imageLoad_ends load with
  | busy => exact (Edits.refl frame).toKeepsMetadata
  | @load cleanedFrame cleaned _ cleanup =>
      have begins : Edits wx true frame
          { frame.record (.imageLoad name) with isFileLoading := true } := .entry rfl rfl rfl rfl
      have pointed := begins.trans (edits_imageUndoPoint env _)
      obtain ⟨cleans, cancelled⟩ := ends.cleanup cleanup
      have ended {loaded : Frame Pixels} : KeepsMetadata wx true loaded (endLoading loaded) :=
        .silently rfl (.refl _)
      refine .trans ?_ edits_autoRotate.toKeepsMetadata
      cases cleaned with
      | true =>
          exact (keepsMetadata_openImage (pointed.grows.trans cleans.grows) name original).trans
            ended
      | false => exact (pointed.toKeepsMetadata.trans (cancelled rfl)).trans ended

include carries ends in
theorem endsKept_imageCleanup {cleaned : Bool}
    (cleanup : imageCleanup wx env (fuel + 1) frame = some (after, cleaned)) :
    MayComment wx frame after ∧ (cleaned = false → KeepsMetadata wx true frame after) := by
  have cropped := @edits_autoCrop _ wx env frame carries
  cases imageCleanup_ends cleanup with
  | save _ _ save => exact ⟨cropped.mayComment (ends.save save), nofun⟩
  | saveAs _ _ save => exact ⟨cropped.mayComment (ends.imageSaveAs save), nofun⟩
  | drop => exact ⟨cropped.mayComment (.inl (.silently rfl (.refl _))), nofun⟩
  | cancelled =>
      exact ⟨.inl cropped.toKeepsMetadata.relax, fun _ => cropped.toKeepsMetadata.relax⟩
  | clean => exact ⟨.inl cropped.toKeepsMetadata.relax, nofun⟩

include ends in
theorem endsKept_onFileSaveAs
    (save : onFileSaveAs wx env (fuel + 1) frame = some after) : MayComment wx frame after := by
  cases onFileSaveAs_ends save with
  | unselected => exact .inl (Edits.refl frame).toKeepsMetadata
  | load _ save load => exact (ends.imageSaveAs save).keeps (ends.load load)

include ends in
theorem endsKept_imageSaveAs {name : FileName}
    (save : imageSaveAs wx env (fuel + 1) name frame = some after) :
    MayComment wx frame after := by
  cases imageSaveAs_ends save with
  | unnamed => exact .inl (Edits.refl frame).toKeepsMetadata
  | save _ cleanup =>
      have written : Edits wx frame.bJPEGlossless frame
          (writeAs wx env name (leaveTemp frame)) := edits_leaveTemp.trans (edits_writeAs name)
      exact (written.mayComment (ends.cleanup cleanup).1).keeps (.silently rfl (.refl _))

include ends in
theorem endsKept_onFileSave
    (save : onFileSave wx env (fuel + 1) frame = some after) : MayComment wx frame after := by
  rcases onFileSave_ends save with ⟨_, rfl⟩ | ⟨_, ended⟩
  · exact .inl (Edits.refl _).toKeepsMetadata
  · refine (?_ : MayComment wx (writePendingComment wx env frame) after).afterPending
    cases ended with
    | saveAs _ save => exact ends.saveAs save
    | lossless => exact .inl edits_saveLossless.toKeepsMetadata
    | lossy => exact .inl edits_saveLossy.toKeepsMetadata
    | reload _ _ _ load =>
        exact .inl (edits_saveLossy.toKeepsMetadata.trans (ends.load load))

end Nested

include carries in
/-- With every fuel nested loads and saves keep the metadata or write the pending comment. -/
theorem endsKept (fuel : Nat) : EndsKept wx env fuel := by
  induction fuel with
  | zero =>
      exact {
        load := fun load => (nomatch load)
        cleanup := fun cleanup => (nomatch cleanup)
        save := fun save => (nomatch save)
        saveAs := fun save => (nomatch save)
        imageSaveAs := fun save => (nomatch save) }
  | succ fuel ih =>
      exact {
        load := endsKept_imageLoad ih
        cleanup := endsKept_imageCleanup carries ih
        save := endsKept_onFileSave ih
        saveAs := endsKept_onFileSaveAs ih
        imageSaveAs := endsKept_imageSaveAs ih }

include carries in
theorem mayComment_loadFile {name : FileName}
    (load : loadFile wx env fuel name frame = some after) : MayComment wx frame after := by
  obtain ⟨⟨cleanedFrame, cleaned⟩, cleanup, rest⟩ := Option.bind_eq_some_iff.mp load
  have cleans := ((endsKept carries fuel).cleanup cleanup).1
  dsimp only at rest
  split at rest
  · exact cleans.keeps ((endsKept carries fuel).load rest)
  · cases rest
    exact cleans

include carries in
theorem mayComment_onFileOpen {name : FileName}
    (load : onFileOpen wx env fuel name frame = some after) : MayComment wx frame after := by
  unfold onFileOpen at load
  split at load
  · cases load
    exact .inl (Edits.refl frame).toKeepsMetadata
  · obtain ⟨⟨cleanedFrame, cleaned⟩, cleanup, rest⟩ := Option.bind_eq_some_iff.mp load
    have cleans := ((endsKept carries fuel).cleanup cleanup).1
    dsimp only at rest
    split at rest
    · obtain ⟨loaded, loads, ended⟩ := Option.bind_eq_some_iff.mp rest
      cases ended
      exact cleans.keeps (((endsKept carries fuel).load loads).trans (.silently rfl (.refl _)))
    · cases rest
      exact cleans

include carries in
theorem mayComment_onFileReload
    (load : onFileReload wx env fuel frame = some after) : MayComment wx frame after := by
  obtain ⟨loaded, loads, ended⟩ := Option.bind_eq_some_iff.mp load
  cases ended
  have cleared : KeepsMetadata wx true frame { frame with bDirty := false } :=
    .silently rfl (.refl _)
  exact .inl ((cleared.trans ((endsKept carries fuel).load loads)).trans (.silently rfl (.refl _)))

end LoadSave

/-! ## Lossy operations -/

/-- The actions other than undo and redo. -/
def Forward (action : Action Pixels) : Prop :=
  action.event ≠ .imageUndo ∧ action.event ≠ .imageRedo

/-- The operations that act on the displayed image.  A resize always does; an inclination does,
but its automatic crop looks at the lossless flag like the other operations. -/
def LossyOperation (wx : Wx Pixels) (action : Action Pixels) (frame : Frame Pixels) : Prop :=
  match action.event with
  | .resize _ _ => True
  | .imageInclin =>
      frame.bJPEGlossless = false ∨
        (action.env (inclineImage wx action.env frame)).bAutoRotateCrop = false
  | .imageCrop | .imageRotateLeft | .imageRotateRight => frame.bJPEGlossless = false
  | .imageFlipHorizontal | .imageFlipVertical => frame.bJPEGlossless = false
  | .toolAction | .modeInclin | .modeCrop => frame.bJPEGlossless = false
  | .imageWriteComment => frame.bJPEGlossless = false
  | _ => False

/-- The value an option has after a lossy operation: the new comment for `COM` when there is one
to write, and else the value before. -/
def optionAfter (wx : Wx Pixels) (event : Event) (frame : Frame Pixels) (id : OptionName) :
    Option Text :=
  if event = .imageWriteComment ∧ frame.textCommentModified = true ∧ id = .com then
    frame.image.map fun _ => encodeBase64 0 (wx.toBytes frame.textComment)
  else imageOption frame.image id

section Perform

variable {wx : Wx Pixels} (carries : CarriesOptions wx)

include carries in
/-- An operation keeps the metadata of the last load, or writes the pending comment. -/
theorem mayComment_perform {action : Action Pixels} {before after : Frame Pixels}
    (forward : Forward action) (performed : perform wx action before = some after) :
    MayComment wx before after := by
  obtain ⟨event, env, fuel⟩ := action
  cases event with
  | imageLoad name original => exact .inl ((endsKept carries fuel).load performed)
  | loadFile name => exact mayComment_loadFile carries performed
  | fileOpen name => exact mayComment_onFileOpen carries performed
  | fileReload => exact mayComment_onFileReload carries performed
  | fileSave => exact (endsKept carries fuel).save performed
  | fileSaveAs => exact (endsKept carries fuel).saveAs performed
  | fileMove folder =>
      cases performed
      cases folder <;> exact .inl (.silently rfl (.refl _))
  | fileNameEndEdit treePath label =>
      cases performed
      unfold onFileNameEndEdit
      dsimp only
      split <;> exact .inl (.silently rfl (.refl _))
  | imageUndo => exact absurd rfl forward.1
  | imageRedo => exact absurd rfl forward.2
  | toolAction =>
      cases performed
      exact .inl (edits_onToolAction env before carries).toKeepsMetadata.relax
  | modeInclin =>
      cases performed
      exact .inl (keepsMetadata_onModeInclin env before carries).relax
  | modeCrop =>
      cases performed
      exact .inl (edits_onModeCrop env before carries).toKeepsMetadata.relax
  | imageCrop =>
      cases performed
      exact .inl (edits_onImageCrop env before carries).toKeepsMetadata.relax
  | imageRotateLeft =>
      cases performed
      exact .inl (edits_dirty_losslessOrManip env before carries _ _).toKeepsMetadata.relax
  | imageRotateRight =>
      cases performed
      exact .inl (edits_dirty_losslessOrManip env before carries _ _).toKeepsMetadata.relax
  | imageFlipHorizontal =>
      cases performed
      exact .inl (edits_dirty_losslessOrManip env before carries _ _).toKeepsMetadata.relax
  | imageFlipVertical =>
      cases performed
      exact .inl (edits_losslessOrManip env before carries _ _).toKeepsMetadata.relax
  | imageJPEGOptimize =>
      cases performed
      exact .inl (keepsMetadata_onImageJPEGOptimize env before)
  | imageJPEGProgressive =>
      cases performed
      exact .inl (keepsMetadata_onImageJPEGProgressive env before)
  | imageInclin =>
      cases performed
      exact .inl (edits_onImageInclin env before carries).toKeepsMetadata.relax
  | resize destWidth destHeight =>
      cases performed
      exact .inl (keepsMetadata_resize env before carries destWidth destHeight)
  | editComment text =>
      cases performed
      exact .inl (.silently rfl (.refl _))
  | imageWriteComment =>
      cases performed
      exact mayComment_onImageWriteComment env before
  | toggleJPEGLossless =>
      cases performed
      exact .inl (.silently rfl (.refl _))

include carries in
/-- Without its automatic crop an inclination loads nothing in either mode. -/
theorem keepsMetadata_onImageInclin {env : Environment Pixels} {frame : Frame Pixels}
    (lossy : frame.bJPEGlossless = false ∨
      (env (inclineImage wx env frame)).bAutoRotateCrop = false) :
    KeepsMetadata wx false frame (onImageInclin wx env frame) := by
  rcases lossy with lossy | uncropped
  · exact lossy ▸ (edits_onImageInclin env frame carries).toKeepsMetadata
  · unfold onImageInclin
    dsimp only
    split
    · rw [if_neg (Bool.eq_false_iff.mp uncropped)]
      exact (edits_inclineImage env frame carries).toKeepsMetadata
    · exact (Edits.refl frame).toKeepsMetadata

include carries in
/-- A lossy operation that is not a comment keeps the metadata. -/
theorem keepsMetadata_lossyOperation {action : Action Pixels} {before after : Frame Pixels}
    (lossy : LossyOperation wx action before) (performed : perform wx action before = some after)
    (noComment : action.event ≠ .imageWriteComment) : KeepsMetadata wx false before after := by
  obtain ⟨event, env, fuel⟩ := action
  cases event with
  | resize destWidth destHeight =>
      cases performed
      exact keepsMetadata_resize env before carries destWidth destHeight
  | imageInclin =>
      cases performed
      exact keepsMetadata_onImageInclin carries lossy
  | imageCrop =>
      cases performed
      exact lossy ▸ (edits_onImageCrop env before carries).toKeepsMetadata
  | imageRotateLeft =>
      cases performed
      exact lossy ▸ (edits_dirty_losslessOrManip env before carries _ _).toKeepsMetadata
  | imageRotateRight =>
      cases performed
      exact lossy ▸ (edits_dirty_losslessOrManip env before carries _ _).toKeepsMetadata
  | imageFlipHorizontal =>
      cases performed
      exact lossy ▸ (edits_dirty_losslessOrManip env before carries _ _).toKeepsMetadata
  | imageFlipVertical =>
      cases performed
      exact lossy ▸ (edits_losslessOrManip env before carries _ _).toKeepsMetadata
  | toolAction =>
      cases performed
      exact lossy ▸ (edits_onToolAction env before carries).toKeepsMetadata
  | modeInclin =>
      cases performed
      exact lossy ▸ keepsMetadata_onModeInclin env before carries
  | modeCrop =>
      cases performed
      exact lossy ▸ (edits_onModeCrop env before carries).toKeepsMetadata
  | imageWriteComment => exact absurd rfl noComment
  | _ => exact lossy.elim

include carries in
/-- A lossy operation changes no option but the comment it writes. -/
theorem imageOption_lossyOperation {action : Action Pixels} {before after : Frame Pixels}
    (lossy : LossyOperation wx action before) (performed : perform wx action before = some after)
    {id : OptionName} (toSave : id ∈ idsToSave) :
    imageOption after.image id = optionAfter wx action.event before id := by
  by_cases comment : action.event = .imageWriteComment
  · obtain ⟨event, env, fuel⟩ := action
    cases comment
    cases performed
    cases pending : before.textCommentModified with
    | false =>
        rw [optionAfter, if_neg fun asked => absurd asked.2.1 (Bool.eq_false_iff.mp pending),
          onImageWriteComment, if_neg (Bool.eq_false_iff.mp pending)]
    | true =>
        rw [(comments_onImageWriteComment env before lossy pending).same.options id toSave]
        by_cases com : id = .com
        · rw [optionAfter, if_pos ⟨rfl, pending, com⟩, com, imageOption_commented_com]
        · rw [optionAfter, if_neg fun asked => com asked.2.2, imageOption_commented_of_ne com]
  · rw [optionAfter, if_neg fun asked => comment asked.1]
    exact (keepsMetadata_lossyOperation carries lossy performed comment).sameMetadata.options
      id toSave

end Perform

/-! ## Runs -/

/-- The runs without undo and redo. -/
abbrev ForwardRun (wx : Wx Pixels) : Frame Pixels → Frame Pixels → Prop :=
  Run (perform wx) fun action _ => Forward action

/--
The displayed image has the metadata the last load left in the image box, or this
with a comment that was pending in lossy mode at a moment since which no file has
been loaded.
-/
def ShowsLoaded (wx : Wx Pixels) (first last : Frame Pixels) : Prop :=
  SameMetadata last.image (lastLoaded wx first last) ∨
    ∃ middle, ForwardRun wx first middle ∧ ForwardRun wx middle last ∧
      NothingLoaded middle last ∧ middle.bJPEGlossless = false ∧
      middle.textCommentModified = true ∧
      SameMetadata last.image (commented wx middle.textComment (lastLoaded wx first last))

section Runs

variable {wx : Wx Pixels} (carries : CarriesOptions wx) {first middle last : Frame Pixels}

include carries in
theorem grows_run (run : ForwardRun wx first last) : Grows first last := by
  induction run with
  | refl => exact .refl _
  | tail action _ forward performed ih =>
      exact ih.trans (mayComment_perform carries forward performed).grows

theorem ShowsLoaded.commented (known : ShowsLoaded wx first last) (text : Text) :
    SameMetadata (commented wx text last.image) (commented wx text (lastLoaded wx first last)) := by
  rcases known with same | ⟨middle, _, _, _, _, _, same⟩
  · exact same.commented
  · exact same.commented.trans sameMetadata_commented_commented

include carries in
/-- One more action loads, keeps what is there, or writes a comment. -/
theorem ShowsLoaded.tail (known : ShowsLoaded wx first middle) (run : ForwardRun wx first middle)
    {action : Action Pixels} (forward : Forward action)
    (performed : perform wx action middle = some last) : ShowsLoaded wx first last := by
  have front := grows_run carries run
  have step := mayComment_perform carries forward performed
  have one : ForwardRun wx middle last := .single action forward performed
  by_cases nothing : NothingLoaded middle last
  · have loaded : lastLoaded wx first last = lastLoaded wx first middle := by
      rw [lastLoaded_trans front step.grows, lastLoad_of_noLoad nothing]
    rw [ShowsLoaded, loaded]
    rcases step with keeps | comments
    · have same := KeepsMetadata.sameMetadata ⟨keeps.grows, keeps.same, fun _ => nothing⟩
      refine known.imp same.trans fun ⟨start, before, after, silent, lossy, pending, written⟩ => ?_
      exact ⟨start, before, after.trans one,
        silent.trans (grows_run carries after) keeps.grows nothing, lossy, pending,
        same.trans written⟩
    · exact .inr ⟨middle, run, one, nothing, comments.lossy, comments.pending,
        comments.same.trans (known.commented _)⟩
  · have keeps : KeepsMetadata wx true middle last :=
      step.resolve_right fun comments => nothing comments.nothing
    exact .inl (KeepsMetadata.reloads front keeps nothing).same

include carries in
/-- Every run shows the metadata of its last load, but for a comment written since. -/
theorem showsLoaded_run (run : ForwardRun wx first last) : ShowsLoaded wx first last := by
  induction run with
  | refl =>
      left
      rw [lastLoaded, added_self]
      exact .refl _
  | tail action before forward performed ih => exact ih.tail carries before forward performed

include carries in
/--
In every run short of undo and redo the displayed image has the metadata of what
was loaded last, but for a comment written since; and every lossy operation leaves
each option as it was, but for the comment it writes.
-/
theorem metadata_kept (run : ForwardRun wx first last) :
    ShowsLoaded wx first last ∧
      ∀ action next, LossyOperation wx action last → perform wx action last = some next →
        ∀ id ∈ idsToSave, imageOption next.image id = optionAfter wx action.event last id :=
  ⟨showsLoaded_run carries run, fun _ _ lossy performed _ toSave =>
    imageOption_lossyOperation carries lossy performed toSave⟩

end Runs

/-- Files with a letter in an `APP1` option, and transformations that lose every option. -/
def letterWx : Wx Bytes :=
  { sampleWx with
    decode := fun data =>
      (sampleWx.decode data).map fun image =>
        { image with options := [(.app 1, data.map fun byte => Char.ofNat (96 + byte.toNat))] }
    transform := fun _ image => ⟨image.pixels ++ [200], []⟩ }

/-- A commented rotation of the first photo, then a flip of the second one. -/
def letterEdits : List Event :=
  [.imageLoad photoA true, .toggleJPEGLossless, .editComment ['x'], .imageWriteComment,
    .imageRotateLeft, .imageLoad photoB true, .toggleJPEGLossless, .imageFlipVertical,
    .editComment ['y']]

def letterActions (events : List Event) : List (Action Bytes) :=
  events.map fun event => ⟨event, sampleEnv 10, 3⟩

def letterFrame (events : List Event) : Frame Bytes :=
  (runEvents (perform letterWx) (letterActions events) (emptyFrame sampleFiles)).getD
    (emptyFrame sampleFiles)

theorem letterEdits_kept :
    ShowsLoaded letterWx (emptyFrame sampleFiles) (letterFrame letterEdits) ∧
      imageOption (letterFrame letterEdits).image .com = none ∧
      imageOption (letterFrame (letterEdits ++ [.imageWriteComment])).image (.app 1) =
        some ['b'] ∧
      imageOption (letterFrame (letterEdits ++ [.imageWriteComment])).image .com =
        some (encodeBase64 0 [121]) := by
  have forward : ∀ action ∈ letterActions letterEdits, Forward action := by
    simp [letterActions, letterEdits, Forward]
  have run : ForwardRun letterWx (emptyFrame sampleFiles) (letterFrame letterEdits) :=
    Run.ofEvents (.of_forall forward _) rfl
  have carries : CarriesOptions letterWx := fun _ _ _ => .inl rfl
  have both := metadata_kept carries run
  let next : Frame Bytes := letterFrame (letterEdits ++ [.imageWriteComment])
  have commented := both.2 ⟨.imageWriteComment, sampleEnv 10, 3⟩ next rfl rfl
  exact ⟨both.1, rfl, commented (.app 1) (by decide), commented .com (by decide)⟩

end RPhoto.Editing
