import RPhoto.Editing.ImageOperations
import RPhoto.Library.Recorded

/-!
# Where the metadata of an image comes from

The options `APP0` to `APP15` and `COM` of the displayed image are compared with
those of the image the last load left in the image box, which is read off the
record of calls.  A step keeps them, or writes the pending comment into them; what
keeps them after a later load settles them whatever happened before.
-/

namespace RPhoto.Editing

open RPhoto.Jpeg RPhoto.Library

variable {Pixels : Type}

/-! ## Images with the same metadata -/

/-- Two images, or none, with the same values of the options that are saved. -/
structure SameMetadata (image source : Option (Image Pixels)) : Prop where
  shown : image.isSome = source.isSome
  options : ∀ id ∈ idsToSave, imageOption image id = imageOption source id

section SameMetadata

variable {image source other : Option (Image Pixels)}

theorem SameMetadata.refl (image : Option (Image Pixels)) : SameMetadata image image :=
  ⟨rfl, fun _ _ => rfl⟩

theorem SameMetadata.of_eq (same : image = source) : SameMetadata image source :=
  same ▸ .refl image

theorem SameMetadata.trans (front : SameMetadata image source)
    (back : SameMetadata source other) : SameMetadata image other :=
  ⟨front.shown.trans back.shown,
    fun id toSave => (front.options id toSave).trans (back.options id toSave)⟩

/-- The options `BEGIN_IMAGE_MANIP` keeps. -/
def keptOptions (image : Option (Image Pixels)) : Options :=
  match image with
  | some image => getImageOptions image.options
  | none => []

/-- A manipulation that carries options over or loses them has them all in the end. -/
theorem sameMetadata_manip {act : Image Pixels → Image Pixels}
    (carried : ∀ source, ∀ id ∈ idsToSave, (act source).options.getOption id = none ∨
      (act source).options.getOption id = source.options.getOption id) :
    SameMetadata (withImageOptions (keptOptions image) (image.map act)) image := by
  cases image with
  | none => exact .refl none
  | some source =>
      exact ⟨rfl, fun id toSave => getOption_carried toSave (carried source id toSave)⟩

end SameMetadata

/-- The image with a comment in its options. -/
def commented (wx : Wx Pixels) (text : Text) (image : Option (Image Pixels)) :
    Option (Image Pixels) :=
  image.map fun image =>
    { image with options := image.options.setOption .com (encodeBase64 0 (wx.toBytes text)) }

section Commented

variable {wx : Wx Pixels} {text : Text} {image source : Option (Image Pixels)}

theorem imageOption_commented_com :
    imageOption (commented wx text image) .com =
      image.map fun _ => encodeBase64 0 (wx.toBytes text) := by
  cases image with
  | none => rfl
  | some image => exact Options.getOption_setOption_self _ _ _

theorem imageOption_commented_of_ne {id : OptionName} (different : id ≠ .com) :
    imageOption (commented wx text image) id = imageOption image id := by
  cases image with
  | none => rfl
  | some image => exact Options.getOption_setOption_of_ne different

theorem SameMetadata.commented (same : SameMetadata image source) :
    SameMetadata (commented wx text image) (commented wx text source) where
  shown := by
    simpa [Editing.commented] using same.shown
  options id toSave := by
    by_cases com : id = .com
    · subst com
      have shown := same.shown
      rw [imageOption_commented_com, imageOption_commented_com]
      cases image <;> cases source <;> first | rfl | cases shown
    · rw [imageOption_commented_of_ne com, imageOption_commented_of_ne com,
        same.options id toSave]

/-- A later comment replaces an earlier one. -/
theorem sameMetadata_commented_commented {earlier : Text} :
    SameMetadata (Editing.commented wx text (Editing.commented wx earlier image))
      (Editing.commented wx text image) where
  shown := by simp [Editing.commented]
  options id toSave := by
    by_cases com : id = .com
    · subst com
      cases image with
      | none => rfl
      | some image => rw [imageOption_commented_com, imageOption_commented_com]; rfl
    · rw [imageOption_commented_of_ne com, imageOption_commented_of_ne com,
        imageOption_commented_of_ne com]

/-- The kept options do not replace the comment. -/
theorem sameMetadata_comment :
    SameMetadata (withImageOptions (keptOptions image) (Editing.commented wx text image))
      (Editing.commented wx text image) := by
  cases image with
  | none => exact .refl none
  | some source =>
      refine ⟨rfl, fun id toSave => ?_⟩
      change (setImageOptions (getImageOptions source.options) _).getOption id =
        (source.options.setOption .com _).getOption id
      rw [getOption_setImageOptions, getOption_getImageOptions toSave]
      by_cases com : id = .com
      · subst com
        rw [Options.getOption_setOption_self]
        rfl
      · rw [Options.getOption_setOption_of_ne com, Option.or_self]

end Commented

/-! ## The last load -/

/-- A call that loads a file into the image box. -/
def Call.isLoad : Call → Bool
  | .loadFile _ => true
  | _ => false

/-- What the image box holds after the loads of a record. -/
def lastLoad (wx : Wx Pixels) (image : Option (Image Pixels))
    (entries : List (Call × Document Pixels)) : Option (Image Pixels) :=
  entries.foldl
    (fun image entry =>
      if entry.1.isLoad then loadedImage wx entry.2.sFilename entry.2 else image)
    image

/-- What the last load between two frames left in the image box; without one, the image of the
first frame. -/
def lastLoaded (wx : Wx Pixels) (first last : Frame Pixels) : Option (Image Pixels) :=
  lastLoad wx first.image (added Frame.calls first last)

/-- No file is loaded between two frames. -/
def NothingLoaded (first last : Frame Pixels) : Prop :=
  ∀ entry ∈ added Frame.calls first last, entry.1.isLoad = false

/-- The record only grows. -/
def Grows (first last : Frame Pixels) : Prop :=
  first.calls ++ added Frame.calls first last = last.calls

section LastLoad

variable {wx : Wx Pixels} {image source : Option (Image Pixels)}
  {entries : List (Call × Document Pixels)} {first middle last : Frame Pixels}

theorem lastLoad_of_noLoad (noLoad : ∀ entry ∈ entries, entry.1.isLoad = false) :
    lastLoad wx image entries = image := by
  induction entries with
  | nil => rfl
  | cons entry rest ih =>
      have quiet := noLoad entry List.mem_cons_self
      have kept := ih fun other member => noLoad other (List.mem_cons_of_mem _ member)
      simpa [lastLoad, quiet] using kept

/-- A load forgets what was displayed before. -/
theorem lastLoad_of_load (image source : Option (Image Pixels))
    (load : ¬ ∀ entry ∈ entries, entry.1.isLoad = false) :
    lastLoad wx image entries = lastLoad wx source entries := by
  induction entries generalizing image source with
  | nil => exact absurd (fun _ member => absurd member List.not_mem_nil) load
  | cons entry rest ih =>
      cases kind : entry.1.isLoad with
      | true => simp [lastLoad, kind]
      | false =>
          have later : ¬ ∀ entry ∈ rest, entry.1.isLoad = false :=
            fun none => load fun other member => by
              rcases List.mem_cons.mp member with rfl | member
              · exact kind
              · exact none other member
          simpa [lastLoad, kind] using ih _ _ later

theorem SameMetadata.lastLoad (same : SameMetadata image source) :
    SameMetadata (lastLoad wx image entries) (lastLoad wx source entries) := by
  by_cases noLoad : ∀ entry ∈ entries, entry.1.isLoad = false
  · rwa [lastLoad_of_noLoad noLoad, lastLoad_of_noLoad noLoad]
  · exact .of_eq (lastLoad_of_load _ _ noLoad)

theorem NothingLoaded.lastLoaded (nothing : NothingLoaded first last) (wx : Wx Pixels) :
    lastLoaded wx first last = first.image :=
  lastLoad_of_noLoad nothing

theorem Grows.refl (frame : Frame Pixels) : Grows frame frame := by
  rw [Grows, added_self, List.append_nil]

theorem Grows.trans (front : Grows first middle) (back : Grows middle last) :
    Grows first last := by
  rw [Grows, added_trans front back, ← List.append_assoc, front, back]

theorem lastLoaded_trans (front : Grows first middle) (back : Grows middle last) :
    lastLoaded wx first last =
      lastLoad wx (lastLoaded wx first middle) (added Frame.calls middle last) := by
  rw [lastLoaded, added_trans front back, lastLoad, List.foldl_append]
  rfl

theorem NothingLoaded.trans (front : Grows first middle) (back : Grows middle last)
    (nothing : NothingLoaded first middle) (later : NothingLoaded middle last) :
    NothingLoaded first last := by
  intro entry member
  rw [added_trans front back] at member
  exact (List.mem_append.mp member).elim (nothing entry) (later entry)

end LastLoad

/-! ## What a step does to the metadata -/

/-- Going from `first` to `last` keeps the metadata of what was loaded last; without `loads`
nothing is loaded. -/
structure KeepsMetadata (wx : Wx Pixels) (loads : Bool) (first last : Frame Pixels) : Prop where
  grows : Grows first last
  same : SameMetadata last.image (lastLoaded wx first last)
  silent : loads = false → NothingLoaded first last

/-- The comment box and the lossless flag. -/
def commentBox (frame : Frame Pixels) :=
  (frame.textComment, frame.textCommentModified, frame.bJPEGlossless)

/-- A step that keeps the metadata, the comment box and the lossless flag. -/
structure Edits (wx : Wx Pixels) (loads : Bool) (first last : Frame Pixels) : Prop extends
    KeepsMetadata wx loads first last where
  box : commentBox last = commentBox first

/-- Going from `first` to `last` writes the pending comment into the options, and loads nothing. -/
structure Comments (wx : Wx Pixels) (first last : Frame Pixels) : Prop where
  grows : Grows first last
  nothing : NothingLoaded first last
  lossy : first.bJPEGlossless = false
  pending : first.textCommentModified = true
  same : SameMetadata last.image (commented wx first.textComment first.image)

/-- The two things a step can do to the metadata. -/
def MayComment (wx : Wx Pixels) (first last : Frame Pixels) : Prop :=
  KeepsMetadata wx true first last ∨ Comments wx first last

section Compose

variable {wx : Wx Pixels} {loads : Bool} {first middle last : Frame Pixels}

theorem KeepsMetadata.relax (keeps : KeepsMetadata wx loads first last) :
    KeepsMetadata wx true first last :=
  ⟨keeps.grows, keeps.same, fun quiet => (nomatch quiet)⟩

theorem KeepsMetadata.sameMetadata (keeps : KeepsMetadata wx false first last) :
    SameMetadata last.image first.image :=
  (keeps.silent rfl).lastLoaded wx ▸ keeps.same

/-- Calls that load nothing, around a change that keeps the metadata. -/
theorem KeepsMetadata.of_append {entries : List (Call × Document Pixels)}
    (calls : last.calls = first.calls ++ entries)
    (noLoad : ∀ entry ∈ entries, entry.1.isLoad = false)
    (same : SameMetadata last.image first.image) : KeepsMetadata wx loads first last := by
  have appended : added Frame.calls first last = entries := added_of_append calls
  have silent : NothingLoaded first last := fun entry member => noLoad entry (appended ▸ member)
  exact ⟨by rw [Grows, appended, calls], silent.lastLoaded wx ▸ same, fun _ => silent⟩

theorem KeepsMetadata.silently (calls : last.calls = first.calls)
    (same : SameMetadata last.image first.image) : KeepsMetadata wx loads first last :=
  .of_append (calls.trans (List.append_nil _).symm) (List.forall_mem_nil _) same

theorem KeepsMetadata.entry {entry : Call × Document Pixels}
    (calls : last.calls = first.calls ++ [entry]) (noLoad : entry.1.isLoad = false)
    (same : SameMetadata last.image first.image) : KeepsMetadata wx loads first last :=
  .of_append calls (List.forall_mem_singleton.mpr noLoad) same

theorem KeepsMetadata.trans (front : KeepsMetadata wx loads first middle)
    (back : KeepsMetadata wx loads middle last) : KeepsMetadata wx loads first last where
  grows := front.grows.trans back.grows
  same := by
    rw [lastLoaded_trans front.grows back.grows]
    exact back.same.trans front.same.lastLoad
  silent := fun quiet =>
    NothingLoaded.trans front.grows back.grows (front.silent quiet) (back.silent quiet)

/-- A later load settles the metadata, whatever happened before it. -/
theorem KeepsMetadata.reloads (grows : Grows first middle)
    (back : KeepsMetadata wx true middle last) (loaded : ¬ NothingLoaded middle last) :
    KeepsMetadata wx true first last where
  grows := grows.trans back.grows
  same := by
    rw [lastLoaded_trans grows back.grows, lastLoad_of_load _ middle.image loaded]
    exact back.same
  silent := fun quiet => (nomatch quiet)

theorem Edits.refl (frame : Frame Pixels) : Edits wx loads frame frame :=
  ⟨.silently rfl (.refl _), rfl⟩

theorem Edits.trans (front : Edits wx loads first middle) (back : Edits wx loads middle last) :
    Edits wx loads first last :=
  ⟨front.toKeepsMetadata.trans back.toKeepsMetadata, back.box.trans front.box⟩

theorem Edits.silently (calls : last.calls = first.calls) (image : last.image = first.image)
    (box : commentBox last = commentBox first) : Edits wx loads first last :=
  ⟨.silently calls (.of_eq image), box⟩

theorem Edits.entry {entry : Call × Document Pixels}
    (calls : last.calls = first.calls ++ [entry]) (noLoad : entry.1.isLoad = false)
    (image : last.image = first.image) (box : commentBox last = commentBox first) :
    Edits wx loads first last :=
  ⟨.entry calls noLoad (.of_eq image), box⟩

theorem Edits.flag (edits : Edits wx loads first last) :
    last.bJPEGlossless = first.bJPEGlossless :=
  congrArg (·.2.2) edits.box

theorem MayComment.grows (step : MayComment wx first last) : Grows first last :=
  step.elim KeepsMetadata.grows Comments.grows

/-- An edit before the comment: with the lossless flag off it has loaded nothing. -/
theorem Edits.comments (front : Edits wx first.bJPEGlossless first middle)
    (back : Comments wx middle last) : Comments wx first last := by
  have lossy : first.bJPEGlossless = false := front.flag.symm.trans back.lossy
  have silent := front.silent lossy
  have image : SameMetadata middle.image first.image :=
    silent.lastLoaded wx ▸ front.same
  have text : middle.textComment = first.textComment := congrArg (·.1) front.box
  have modified : middle.textCommentModified = first.textCommentModified :=
    congrArg (·.2.1) front.box
  exact ⟨front.grows.trans back.grows, silent.trans front.grows back.grows back.nothing, lossy,
    modified ▸ back.pending, text ▸ back.same.trans image.commented⟩

/-- After the comment the metadata is kept, without a load. -/
theorem Comments.keeps (front : Comments wx first middle)
    (back : KeepsMetadata wx false middle last) : Comments wx first last :=
  ⟨front.grows.trans back.grows,
    front.nothing.trans front.grows back.grows (back.silent rfl), front.lossy, front.pending,
    back.sameMetadata.trans front.same⟩

theorem Edits.mayComment (front : Edits wx first.bJPEGlossless first middle)
    (back : MayComment wx middle last) : MayComment wx first last :=
  back.imp front.toKeepsMetadata.relax.trans front.comments

/-- What keeps the metadata keeps the comment too, or loads and forgets it. -/
theorem MayComment.keeps (front : MayComment wx first middle)
    (back : KeepsMetadata wx true middle last) : MayComment wx first last := by
  rcases front with keeps | comments
  · exact .inl (keeps.trans back)
  · by_cases nothing : NothingLoaded middle last
    · exact .inr (comments.keeps ⟨back.grows, back.same, fun _ => nothing⟩)
    · exact .inl (.reloads comments.grows back nothing)

/-- Without a pending comment none is written. -/
theorem MayComment.keepsMetadata (step : MayComment wx first last)
    (none : first.textCommentModified = false) : KeepsMetadata wx true first last :=
  step.resolve_right fun comments =>
    absurd (none.symm.trans comments.pending) Bool.false_ne_true

end Compose

end RPhoto.Editing
