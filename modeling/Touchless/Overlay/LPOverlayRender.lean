import Touchless.Foundations.PartialRun
import Touchless.Overlay.LPOverlay

/-!
# The render thread of the overlay

The threads of `LPOverlay`. A flush leaves its cache and raises a flag under the mutex
`m_renderMutex`; the render thread takes the cache, drops the mutex, draws one display after the
other, and waits on a condition while the flag is down. A run is a sequence, in any order, of
critical sections and of drawings of one display. A wait may end spuriously, and otherwise ends only
when the thread has been notified.

A screen holds textures with their pixels, which `drawRect` reads from the data of the cache.
`waiting_upToDate` is what the protocol is for: when the thread waits, nothing has been missed, and
every screen shows the icons of the last flush, though `drawRect` clears a display only if it thinks
that it has to. `thread_settles` says that the thread gets there by itself.

`Update` changes the displays without the mutex, which the source marks as a FIXME; a change is
taken to come between two drawings. The notifications of sleep are left out.
-/

namespace Touchless

variable (intersects : LPRect → LPRect → Bool)

namespace LPOverlay

open OSInteractionDriverWin (toInt)

/-! ### The displays -/

/-- A texture on the screen: its place, from the lower left corner, and its pixels. -/
structure Quad where
  x : LPFloat
  y : LPFloat
  width : ℤ
  height : ℤ
  pixels : List UInt32

/-- What an upload puts on the screen: the pixels that it reads from the data. -/
def Upload.quad (buffer : List UInt32) (u : Upload) : Quad where
  x := u.x
  y := u.y
  width := u.width
  height := u.height
  pixels := u.pixels buffer

/-- A display: the frame of its window, its view, and what is on the screen. -/
structure Display where
  frame : LPRect
  view : LPOpenGLView
  screen : List Quad

/-- A display with a new window. -/
def Display.new (frame : LPRect) : Display where
  frame := frame
  view := { overlayCache := none, isInitialized := false, isDirty := false, isShown := false }
  screen := []

/-- Does `drawRect` clear the display? -/
def clears (frame : LPRect) (view : LPOpenGLView) : Bool :=
  match view.overlayCache with
  | none => view.isDirty
  | some cache => view.isDirty ||
      cache.overlayImageBoundingBox.any (intersects (screenRect cache.mainDisplayHeight frame))

/-- The data that `drawRect` reads. -/
def bufferOf (cache : Option LPOverlayCache) : List UInt32 := cache.elim [] LPOverlayCache.buffer

/-- The body of the loop over the displays in `Render`. What is on the screen stays if `drawRect`
does not clear it. -/
def Display.render (cache : Option LPOverlayCache) (d : Display) : Display :=
  let view := setOverlayCache d.view cache
  let drawn := drawRect intersects d.frame view
  { d with
    view := drawn.1
    screen := if clears intersects d.frame view then drawn.2.map (Upload.quad (bufferOf cache))
      else d.screen }

/-- The view knows whether there is something on the screen. -/
def Display.Clean (d : Display) : Prop := d.view.isDirty = !d.screen.isEmpty

/-! ### What is to be seen -/

/-- Pixels in a box, as it lies on a display. -/
def Quad.inBox (rect box : LPRect) (pixels : List UInt32) : Quad where
  x := box.getMinX - rect.getMinX
  y := rect.getMaxY - box.getMaxY
  width := toInt box.size.width
  height := toInt box.size.height
  pixels := pixels

/-- A picture on a display: the boxes that lie on it, with the pixels of a buffer dealt out to them
in their order. -/
def picture (rect : LPRect) (boxes : List LPRect) (buffer : List UInt32) : List Quad :=
  let shown := boxes.filter (intersects rect)
  (shown.zip ((shown.map pixelCount).splitLengths buffer)).map fun part ↦
    .inBox rect part.1 part.2

/-- The screen shows a cache. -/
def Display.Shows (cache : Option LPOverlayCache) (d : Display) : Prop :=
  d.screen = cache.elim [] fun cache ↦ picture intersects
    (screenRect cache.mainDisplayHeight d.frame) cache.overlayImageBoundingBox cache.buffer

/-- The screen shows icons: those with a raster that lie on the display, in their order and at their
places. The pixels of all of them are dealt out to these, so each has its own pixels if no icon with
pixels that is off the display comes before one that is on it. -/
structure Display.ShowsIcons (mainDisplayHeight : LPFloat) (icons : List LPIcon) (d : Display) :
    Prop where
  dealt : d.screen = picture intersects (screenRect mainDisplayHeight d.frame)
    ((rasters icons).map Raster.box) ((rasters icons).map Raster.pixels).flatten
  own : NothingSkipped intersects (screenRect mainDisplayHeight d.frame)
      ((rasters icons).map Raster.box) →
    d.screen = ((rasters icons).filter fun r ↦
        intersects (screenRect mainDisplayHeight d.frame) r.box).map fun r ↦
      .inBox (screenRect mainDisplayHeight d.frame) r.box r.pixels

/-- The windows that `Update` makes for the displays that are active, with the height of the first
one. The bounds of the others are turned around to count from the lower left corner. -/
def windows : List LPRect → LPFloat × List Display
  | [] => (0, [])
  | bounds :: others => (bounds.size.height,
      .new bounds :: others.map fun bounds' ↦ .new (screenRect bounds.size.height bounds'))

/-! ### The threads -/

/-- Where the render thread is while it does not hold the mutex. -/
inductive RenderThread where
  | starting
  /-- in `m_renderCondition.wait` -/
  | waiting (notified : Bool)
  /-- before the display with the index -/
  | drawing (cache : Option LPOverlayCache) (i : ℕ)
  | finished

/-- The wake-up of `notify_all`. -/
def RenderThread.notify : RenderThread → RenderThread
  | waiting _ => waiting true
  | thread => thread

end LPOverlay

open LPOverlay in
/-- The members of `LPOverlay` but for the icons, where its thread is, and logs of the caches that
were flushed and of those that the thread took. -/
structure LPOverlay where
  displays : List Display
  mainDisplayHeight : LPFloat
  overlayCache : Option LPOverlayCache
  modifiedCache : Bool
  keepThreadRunning : Bool
  thread : RenderThread
  /-- have the displays been changed since the last flush? -/
  updating : Bool
  flushed : List (Option LPOverlayCache)
  rendered : List (Option LPOverlayCache)

namespace LPOverlay

/-- The constructor, before its call of `Update`. -/
def construct : LPOverlay where
  displays := []
  mainDisplayHeight := 0
  overlayCache := none
  modifiedCache := false
  keepThreadRunning := true
  thread := .starting
  updating := true
  flushed := []
  rendered := []

section Steps

variable (o : LPOverlay)

/-- The critical section of `Flush`. -/
def publish (cache : Option LPOverlayCache) : LPOverlay :=
  { o with
    overlayCache := cache
    modifiedCache := true
    thread := o.thread.notify
    updating := false
    flushed := o.flushed ++ [cache] }

/-- `Update`, before its call of `Flush`. -/
def changeDisplays (bounds : List LPRect) : LPOverlay :=
  { o with
    displays := (windows bounds).2
    mainDisplayHeight := (windows bounds).1
    updating := true }

/-- The destructor, before it joins the thread. -/
def terminate : LPOverlay :=
  { o with
    displays := []
    keepThreadRunning := false
    modifiedCache := true
    thread := o.thread.notify }

/-- `Render`, from where the thread takes the mutex to where it drops it again. -/
def resume : LPOverlay :=
  if o.keepThreadRunning then
    if o.modifiedCache then
      { o with
        overlayCache := none
        modifiedCache := false
        thread := .drawing o.overlayCache 0
        rendered := o.rendered ++ [o.overlayCache] }
    else { o with thread := .waiting false }
  else { o with thread := .finished }

/-- One turn of the loop over the displays in `Render`. -/
def draw (cache : Option LPOverlayCache) (i : ℕ) (d : Display) : LPOverlay :=
  { o with
    displays := o.displays.set i (d.render intersects cache)
    thread := .drawing cache (i + 1) }

/-- The thread goes on, unless it waits. -/
def goOn : Option LPOverlay :=
  match o.thread with
  | .starting | .waiting true => some o.resume
  | .waiting false => none
  | .drawing cache i =>
    match o.displays[i]? with
    | some d => some (o.draw intersects cache i d)
    | none => some o.resume
  | .finished => none

/-- The wait ends for no reason. -/
def wakeUp : Option LPOverlay :=
  match o.thread with
  | .waiting _ => some o.resume
  | _ => none

end Steps

/-- What can happen next. -/
inductive Action where
  /-- `Flush` of a set of icons; `fresh` is what happens to be in the buffer that is allocated -/
  | flush (fresh : ℕ → UInt32) (icons : List LPIcon)
  | changeDisplays (bounds : List LPRect)
  | terminate
  | goOn
  | wakeUp

/-- One action, if it can happen. -/
def step (o : LPOverlay) : Action → Option LPOverlay
  | .flush fresh icons => some (o.publish (flush fresh o.mainDisplayHeight icons))
  | .changeDisplays bounds => some (o.changeDisplays bounds)
  | .terminate => some o.terminate
  | .goOn => o.goOn intersects
  | .wakeUp => o.wakeUp

/-- A sequence of actions, if it can happen. -/
def run (o : LPOverlay) (actions : List Action) : Option LPOverlay :=
  actions.foldlM (step intersects) o

/-! ### Drawing one display -/

section Displays

variable {intersects} {d : Display} {cache : Option LPOverlayCache}

theorem clean_new (frame : LPRect) : (Display.new frame).Clean := rfl

theorem clean_windows (bounds : List LPRect) : ∀ d ∈ (windows bounds).2, d.Clean := by
  intro d hd
  cases bounds with
  | nil => cases hd
  | cons first others =>
    rcases List.mem_cons.1 hd with rfl | hd
    · exact clean_new first
    · obtain ⟨frame, -, rfl⟩ := List.mem_map.1 hd
      exact clean_new _

theorem quad_uploadOf (rect : LPRect) (buffer : List UInt32) (r : ℕ × ℕ × LPRect) :
    (uploadOf rect r).quad buffer =
      .inBox rect r.2.2 ((buffer.drop r.2.1).take (pixelCount r.2.2)) := by
  have hy : rect.size.height - r.2.2.size.height - r.2.2.origin.y + rect.origin.y =
      rect.getMaxY - r.2.2.getMaxY := by
    rw [LPRect.getMaxY, LPRect.getMaxY]
    ring
  rw [Quad.inBox, ← hy]
  rfl

/-- **What the loop draws** is the picture of the boxes and the data. -/
theorem drawTextures_quads (rect : LPRect) (boxes : List LPRect) (buffer : List UInt32) :
    (drawTextures intersects rect 0 0 boxes).map (Upload.quad buffer) =
      picture intersects rect boxes buffer := by
  have hslices := Packing.reads_slices (intersects rect) pixelCount buffer boxes 0 0
  rw [List.drop_zero] at hslices
  rw [drawTextures_eq, picture, ← hslices, List.map_map, List.map_map]
  exact List.map_congr_left fun r _ ↦ quad_uploadOf rect buffer r

/-- Rasters of which none is skipped have their own pixels. -/
theorem picture_rasters {rect : LPRect} {rs : List Raster}
    (h : NothingSkipped intersects rect (rs.map Raster.box)) :
    picture intersects rect (rs.map Raster.box) (rs.map Raster.pixels).flatten =
      (rs.filter fun r ↦ intersects rect r.box).map fun r ↦ .inBox rect r.box r.pixels := by
  have hshown : (rs.map Raster.box).filter (intersects rect) =
      (rs.filter fun r ↦ intersects rect r.box).map Raster.box := List.filter_map
  have hsizes : ((rs.filter fun r ↦ intersects rect r.box).map Raster.box).map pixelCount =
      (rs.filter fun r ↦ intersects rect r.box).map fun r ↦ r.pixels.length := by
    rw [List.map_map]
    exact List.map_congr_left fun r _ ↦ r.sized.symm
  have hdealt := Packing.splitLengths_kept (fun r : Raster ↦ intersects rect r.box) Raster.pixels rs
    fun before r after hsplit hr c hc ↦ by
      have hskipped := h (before.map Raster.box) r.box (after.map Raster.box)
        (by rw [hsplit, List.map_append, List.map_cons]) hr c.box (List.mem_map_of_mem hc)
      rwa [← c.sized, List.length_eq_zero_iff] at hskipped
  rw [picture, hshown, hsizes, hdealt, List.zip_map', List.map_map]
  rfl

/-- A flush is seen as its icons. -/
theorem Display.Shows.icons {fresh : ℕ → UInt32} {mainDisplayHeight : LPFloat}
    {icons : List LPIcon} (h : d.Shows intersects (flush fresh mainDisplayHeight icons)) :
    d.ShowsIcons intersects mainDisplayHeight icons := by
  have hdealt : d.screen = picture intersects (screenRect mainDisplayHeight d.frame)
      ((rasters icons).map Raster.box) ((rasters icons).map Raster.pixels).flatten := by
    cases hflush : flush fresh mainDisplayHeight icons with
    | none =>
      rw [hflush] at h
      rw [eq_nil_of_flush hflush]
      exact h
    | some cache =>
      obtain ⟨hboxes, hheight, hbuffer⟩ := flush_spec hflush
      rw [hflush, Display.Shows] at h
      rw [h, Option.elim_some, hboxes, hheight, hbuffer]
  exact ⟨hdealt, fun hnothing ↦ hdealt.trans (picture_rasters hnothing)⟩

/-- **Drawing** a display shows the cache: if nothing is cleared, there was nothing to clear, and
there is nothing to draw. -/
theorem Display.Clean.render (h : d.Clean) :
    (d.render intersects cache).Shows intersects cache ∧ (d.render intersects cache).Clean := by
  obtain ⟨frame, view, screen⟩ := d
  have hdirty : view.isDirty = !screen.isEmpty := h
  cases cache with
  | none =>
    cases hview : view.isDirty with
    | true => simp [Display.Shows, Display.Clean, Display.render, clears, drawRect,
        setOverlayCache, hview]
    | false =>
      have hscreen : screen = [] := by simpa [hview] using hdirty
      simp [Display.Shows, Display.Clean, Display.render, clears, drawRect,
        setOverlayCache, hview, hscreen]
  | some cache =>
    have hquads : (drawRect intersects frame (setOverlayCache view (some cache))).2.map
        (Upload.quad cache.buffer) = picture intersects (screenRect cache.mainDisplayHeight frame)
          cache.overlayImageBoundingBox cache.buffer := by
      rw [drawRect_uploads, drawTextures_quads]
    cases hclears : clears intersects frame (setOverlayCache view (some cache)) with
    | true =>
      have hscreen : (Display.render intersects (some cache) ⟨frame, view, screen⟩).screen =
          (drawRect intersects frame (setOverlayCache view (some cache))).2.map
            (Upload.quad cache.buffer) := if_pos hclears
      refine ⟨hscreen.trans hquads, ?_⟩
      rw [Display.Clean, hscreen, List.isEmpty_map]
      show (drawRect intersects frame (setOverlayCache view (some cache))).1.isDirty = _
      rw [clears, setOverlayCache] at hclears
      rw [drawRect, setOverlayCache]
      dsimp only at hclears ⊢
      rw [if_pos hclears]
    | false =>
      have hscreen : (Display.render intersects (some cache) ⟨frame, view, screen⟩).screen =
          screen := if_neg (by rw [hclears]; exact Bool.false_ne_true)
      rw [clears, setOverlayCache] at hclears
      dsimp only at hclears
      obtain ⟨hclean, hnone⟩ := Bool.or_eq_false_iff.1 hclears
      have hempty : screen = [] := by simpa [hclean] using hdirty
      have hdrawn : drawRect intersects frame (setOverlayCache view (some cache)) =
          ({ setOverlayCache view (some cache) with isDirty := false }, []) := by
        rw [drawRect, setOverlayCache]
        dsimp only
        rw [if_neg (by rw [hclears]; exact Bool.false_ne_true)]
      refine ⟨?_, ?_⟩
      · rw [Display.Shows, hscreen, hempty]
        rw [hdrawn] at hquads
        exact hquads
      · rw [Display.Clean, hscreen, hempty]
        exact congrArg (fun drawn ↦ drawn.1.isDirty) hdrawn

end Displays

/-! ### Invariants of a run -/

section Runs

variable {intersects} {o o' : LPOverlay} {actions : List Action}

/-- From the display that it draws, the thread goes on with the next one, -/
theorem goOn_draw (intersects : LPRect → LPRect → Bool) {cache : Option LPOverlayCache} {i : ℕ}
    {d : Display}
    (hthread : o.thread = .drawing cache i) (hd : o.displays[i]? = some d) :
    o.goOn intersects = some (o.draw intersects cache i d) := by
  simp only [goOn, hthread, hd]

/-- or takes the mutex after the last one. -/
theorem goOn_drawn {cache : Option LPOverlayCache} {i : ℕ} (hthread : o.thread = .drawing cache i)
    (hd : o.displays.length ≤ i) : o.goOn intersects = some o.resume := by
  simp only [goOn, hthread, List.getElem?_eq_none hd]

/-- **What the thread can do** when it goes on. -/
theorem goOn_cases (h : o.goOn intersects = some o') :
    (o' = o.resume ∧ (o.thread = .starting ∨ o.thread = .waiting true ∨
      ∃ cache i, o.thread = .drawing cache i ∧ o.displays.length ≤ i)) ∨
    ∃ cache i d, o.thread = .drawing cache i ∧ o.displays[i]? = some d ∧
      o' = o.draw intersects cache i d := by
  cases hthread : o.thread with
  | starting =>
    simp only [goOn, hthread, Option.some.injEq] at h
    exact .inl ⟨h.symm, .inl rfl⟩
  | waiting notified =>
    cases notified with
    | false => simp [goOn, hthread] at h
    | true =>
      simp only [goOn, hthread, Option.some.injEq] at h
      exact .inl ⟨h.symm, .inr (.inl rfl)⟩
  | drawing cache i =>
    cases hd : o.displays[i]? with
    | some d =>
      rw [goOn_draw intersects hthread hd, Option.some.injEq] at h
      exact .inr ⟨cache, i, d, rfl, hd, h.symm⟩
    | none =>
      have hlength := List.getElem?_eq_none_iff.1 hd
      rw [goOn_drawn hthread hlength, Option.some.injEq] at h
      exact .inl ⟨h.symm, .inr (.inr ⟨cache, i, rfl, hlength⟩)⟩
  | finished => simp [goOn, hthread] at h

theorem wakeUp_cases (h : o.wakeUp = some o') :
    o' = o.resume ∧ ∃ notified, o.thread = .waiting notified := by
  cases hthread : o.thread with
  | waiting notified =>
    simp only [wakeUp, hthread, Option.some.injEq] at h
    exact ⟨h.symm, notified, rfl⟩
  | _ => simp [wakeUp, hthread] at h

/-- How far the last flush has come, while nothing is left for the thread to take. -/
def Progress (intersects : LPRect → LPRect → Bool) (cache : Option LPOverlayCache)
    (displays : List Display) : RenderThread → Prop
  | .starting => False
  | .drawing cache' i => cache' = cache ∧ ∀ d ∈ displays.take i, d.Shows intersects cache
  | .waiting _ | .finished => ∀ d ∈ displays, d.Shows intersects cache

/-- What holds between the actions of a run. -/
structure Kept (intersects : LPRect → LPRect → Bool) (o : LPOverlay) : Prop where
  clean : ∀ d ∈ o.displays, d.Clean
  /-- the thread does not wait while there is something to do -/
  awake : o.thread = .waiting false → o.modifiedCache = false ∧ o.keepThreadRunning = true
  /-- the last flush is waiting to be taken, or it is being drawn, or it has been drawn -/
  current : o.keepThreadRunning = true → o.updating = false →
    ∃ cache, o.flushed.getLast? = some cache ∧
      if o.modifiedCache then o.overlayCache = cache
      else Progress intersects cache o.displays o.thread
  ended : o.thread = .finished → o.keepThreadRunning = false
  taken : o.rendered.Sublist o.flushed
  /-- what is waiting to be taken came after what has been taken -/
  pending : o.keepThreadRunning = true → o.modifiedCache = true →
    (o.rendered ++ [o.overlayCache]).Sublist o.flushed

theorem kept_construct : Kept intersects construct where
  clean := nofun
  awake := nofun
  current := nofun
  ended := nofun
  taken := List.Sublist.refl _
  pending := nofun

theorem notify_ne_waiting (thread : RenderThread) : thread.notify ≠ .waiting false := by
  cases thread <;> simp [RenderThread.notify]

theorem notify_eq_finished {thread : RenderThread} (h : thread.notify = .finished) :
    thread = .finished := by
  cases thread <;> simp_all [RenderThread.notify]

/-- A flush becomes the one that is waiting to be taken, and wakes the thread. -/
theorem Kept.publish (h : Kept intersects o) (cache : Option LPOverlayCache) :
    Kept intersects (o.publish cache) where
  clean := h.clean
  awake hwaiting := absurd hwaiting (notify_ne_waiting o.thread)
  current _ _ := ⟨cache, List.getLast?_concat, rfl⟩
  ended hfinished := h.ended (notify_eq_finished hfinished)
  taken := h.taken.trans (List.sublist_append_left _ _)
  pending _ _ := h.taken.append (List.Sublist.refl _)

theorem Kept.changeDisplays (h : Kept intersects o) (bounds : List LPRect) :
    Kept intersects (o.changeDisplays bounds) where
  clean := clean_windows bounds
  awake := h.awake
  current := nofun
  ended := h.ended
  taken := h.taken
  pending := h.pending

theorem Kept.terminate (h : Kept intersects o) : Kept intersects o.terminate where
  clean := nofun
  awake hwaiting := absurd hwaiting (notify_ne_waiting o.thread)
  current := nofun
  ended _ := rfl
  taken := h.taken
  pending := nofun

/-- With the mutex, the thread ends, -/
theorem resume_stopped (hkeep : o.keepThreadRunning = false) :
    o.resume = { o with thread := .finished } := by
  rw [resume, if_neg (by rw [hkeep]; exact Bool.false_ne_true)]

/-- takes what there is, -/
theorem resume_modified (hkeep : o.keepThreadRunning = true) (hmodified : o.modifiedCache = true) :
    o.resume = { o with
      overlayCache := none
      modifiedCache := false
      thread := .drawing o.overlayCache 0
      rendered := o.rendered ++ [o.overlayCache] } := by
  rw [resume, if_pos hkeep, if_pos hmodified]

/-- or waits. -/
theorem resume_unmodified (hkeep : o.keepThreadRunning = true)
    (hmodified : o.modifiedCache = false) : o.resume = { o with thread := .waiting false } := by
  rw [resume, if_pos hkeep, if_neg (by rw [hmodified]; exact Bool.false_ne_true)]

/-- This keeps the invariant, if what the thread had to draw before has been drawn. -/
theorem Kept.resume (h : Kept intersects o)
    (hdone : ∀ cache, Progress intersects cache o.displays o.thread →
      ∀ d ∈ o.displays, d.Shows intersects cache) : Kept intersects o.resume := by
  rcases Bool.eq_false_or_eq_true o.keepThreadRunning with hkeep | hkeep
  · rcases Bool.eq_false_or_eq_true o.modifiedCache with hmodified | hmodified
    · rw [resume_modified hkeep hmodified]
      refine ⟨h.clean, nofun, fun _ hupdating ↦ ?_, nofun, h.pending hkeep hmodified, nofun⟩
      obtain ⟨cache, hlast, hcache⟩ := h.current hkeep hupdating
      rw [hmodified, if_pos rfl] at hcache
      exact ⟨cache, hlast, hcache, fun d hd ↦ by cases hd⟩
    · rw [resume_unmodified hkeep hmodified]
      refine ⟨h.clean, fun _ ↦ ⟨hmodified, hkeep⟩, fun _ hupdating ↦ ?_, nofun, h.taken,
        h.pending⟩
      obtain ⟨cache, hlast, hcache⟩ := h.current hkeep hupdating
      rw [hmodified, if_neg Bool.false_ne_true] at hcache
      refine ⟨cache, hlast, ?_⟩
      rw [hmodified, if_neg Bool.false_ne_true]
      exact hdone cache hcache
  · rw [resume_stopped hkeep]
    have hstopped : ¬o.keepThreadRunning = true := by
      rw [hkeep]
      exact Bool.false_ne_true
    exact ⟨h.clean, nofun, fun hkeep' ↦ absurd hkeep' hstopped, fun _ ↦ hkeep, h.taken,
      fun hkeep' ↦ absurd hkeep' hstopped⟩

/-- The thread draws the next display. -/
theorem Kept.draw (h : Kept intersects o) {cache : Option LPOverlayCache} {i : ℕ} {d : Display}
    (hthread : o.thread = .drawing cache i) (hd : o.displays[i]? = some d) :
    Kept intersects (o.draw intersects cache i d) where
  clean d' hd' := by
    rcases List.mem_or_eq_of_mem_set hd' with hd' | rfl
    · exact h.clean d' hd'
    · exact (h.clean d (List.mem_of_getElem? hd)).render.2
  awake := nofun
  current hkeep hupdating := by
    obtain ⟨last, hlast, hcache⟩ := h.current hkeep hupdating
    refine ⟨last, hlast, ?_⟩
    show if o.modifiedCache then o.overlayCache = last else _
    split_ifs at hcache ⊢ with hmodified
    · exact hcache
    · rw [hthread] at hcache
      obtain ⟨rfl, hshown⟩ := hcache
      refine ⟨rfl, fun d' hd' ↦ ?_⟩
      have hlt : i < o.displays.length := (List.getElem?_eq_some_iff.1 hd).1
      rw [LPOverlay.draw, List.take_add_one, List.take_set_of_le le_rfl,
        List.getElem?_set_self hlt] at hd'
      rcases List.mem_append.1 hd' with hd' | hd'
      · exact hshown d' hd'
      · obtain rfl := List.mem_singleton.1 hd'
        exact (h.clean d (List.mem_of_getElem? hd)).render.1
  ended := nofun
  taken := h.taken
  pending := h.pending

/-- **Every action** keeps the invariant. -/
theorem Kept.step (h : Kept intersects o) {action : Action}
    (hstep : o.step intersects action = some o') : Kept intersects o' := by
  cases action with
  | flush fresh icons =>
    obtain rfl := Option.some.inj hstep
    exact h.publish _
  | changeDisplays bounds =>
    obtain rfl := Option.some.inj hstep
    exact h.changeDisplays bounds
  | terminate =>
    obtain rfl := Option.some.inj hstep
    exact h.terminate
  | goOn =>
    rcases goOn_cases hstep with ⟨rfl, hthread⟩ | ⟨cache, i, d, hthread, hd, rfl⟩
    · refine h.resume fun cache hprogress ↦ ?_
      rcases hthread with hthread | hthread | ⟨cache', i, hthread, hlength⟩ <;>
        rw [hthread] at hprogress
      · cases hprogress
      · exact hprogress
      · have hall := hprogress.2
        rwa [List.take_of_length_le hlength] at hall
    · exact h.draw hthread hd
  | wakeUp =>
    obtain ⟨rfl, notified, hthread⟩ := wakeUp_cases hstep
    exact h.resume fun cache hprogress ↦ by rwa [hthread] at hprogress

/-- **Every run** keeps the invariant. -/
theorem Kept.run (h : Kept intersects o) (hrun : o.run intersects actions = some o') :
    Kept intersects o' :=
  PartialRun.foldlM_invariant (P := fun _ o ↦ Kept intersects o) h
    (fun _ _ _ _ _ hkept hstep ↦ hkept.step hstep) hrun

/-! ### What the threads can rely on -/

/-- The actions that are none of `Flush` and `Update`. -/
def Action.isQuiet : Action → Bool
  | .flush _ _ | .changeDisplays _ => false
  | .terminate | .goOn | .wakeUp => true

/-- What only `Flush` and `Update` change. -/
structure SameFlush (o o' : LPOverlay) : Prop where
  updating : o'.updating = o.updating
  flushed : o'.flushed = o.flushed
  mainDisplayHeight : o'.mainDisplayHeight = o.mainDisplayHeight

theorem SameFlush.trans {o'' : LPOverlay} (h : SameFlush o o') (h' : SameFlush o' o'') :
    SameFlush o o'' :=
  ⟨h'.updating.trans h.updating, h'.flushed.trans h.flushed,
    h'.mainDisplayHeight.trans h.mainDisplayHeight⟩

theorem sameFlush_resume : SameFlush o o.resume := by
  rw [resume]
  split_ifs <;> exact ⟨rfl, rfl, rfl⟩

theorem sameFlush_step {action : Action} (hquiet : action.isQuiet = true)
    (hstep : o.step intersects action = some o') : SameFlush o o' := by
  cases action with
  | flush fresh icons => cases hquiet
  | changeDisplays bounds => cases hquiet
  | terminate =>
    obtain rfl := Option.some.inj hstep
    exact ⟨rfl, rfl, rfl⟩
  | goOn =>
    rcases goOn_cases hstep with ⟨rfl, -⟩ | ⟨cache, i, d, -, -, rfl⟩
    · exact sameFlush_resume
    · exact ⟨rfl, rfl, rfl⟩
  | wakeUp =>
    obtain ⟨rfl, -⟩ := wakeUp_cases hstep
    exact sameFlush_resume

theorem sameFlush_run (hquiet : ∀ action ∈ actions, action.isQuiet = true)
    (hrun : o.run intersects actions = some o') : SameFlush o o' := by
  induction actions generalizing o with
  | nil =>
    obtain rfl := Option.some.inj hrun
    exact ⟨rfl, rfl, rfl⟩
  | cons action actions ih =>
    rw [run, List.foldlM_cons, Option.bind_eq_bind, Option.bind_eq_some_iff] at hrun
    obtain ⟨middle, hstep, hrest⟩ := hrun
    exact (sameFlush_step (hquiet action (.head _)) hstep).trans
      (ih (fun a ha ↦ hquiet a (.tail _ ha)) hrest)

/-- The last flush is of the icons, and the displays have not changed since. -/
def LastFlush (fresh : ℕ → UInt32) (icons : List LPIcon) (actions : List Action) : Prop :=
  ∃ before after, actions = before ++ .flush fresh icons :: after ∧
    ∀ action ∈ after, action.isQuiet = true

/-- The members tell the last flush. -/
theorem LastFlush.run {fresh : ℕ → UInt32} {icons : List LPIcon} (h : LastFlush fresh icons actions)
    (hrun : o.run intersects actions = some o') : o'.updating = false ∧
      o'.flushed.getLast? = some (LPOverlay.flush fresh o'.mainDisplayHeight icons) := by
  obtain ⟨before, after, rfl, hquiet⟩ := h
  obtain ⟨middle, -, hlast⟩ := PartialRun.foldlM_append_eq_some.1 hrun
  rw [List.foldlM_cons, Option.bind_eq_bind, Option.bind_eq_some_iff] at hlast
  obtain ⟨flushed, hflush, hafter⟩ := hlast
  obtain rfl := Option.some.inj hflush
  have hsame := sameFlush_run hquiet hafter
  exact ⟨hsame.updating, by rw [hsame.flushed, hsame.mainDisplayHeight]; exact List.getLast?_concat⟩

/-- While the thread waits, the screens show the last flush. -/
theorem Kept.showsIcons (h : Kept intersects o) (hwaiting : o.thread = .waiting false)
    (hupdating : o.updating = false) {fresh : ℕ → UInt32} {icons : List LPIcon}
    (hlast : o.flushed.getLast? = some (flush fresh o.mainDisplayHeight icons)) :
    ∀ d ∈ o.displays, d.ShowsIcons intersects o.mainDisplayHeight icons := by
  obtain ⟨hmodified, hkeep⟩ := h.awake hwaiting
  obtain ⟨cache, hcache, hshown⟩ := h.current hkeep hupdating
  rw [hmodified, if_neg Bool.false_ne_true, hwaiting] at hshown
  obtain rfl := Option.some.inj (hlast.symm.trans hcache)
  exact fun d hd ↦ (hshown d hd).icons

/-- **When the thread waits** to be notified, in any interleaving, it has missed nothing: what it
has rendered are flushes in their order, none is left, and once there has been a flush of the
displays as they are, every screen shows the icons of the last one. -/
theorem waiting_upToDate (intersects : LPRect → LPRect → Bool) (actions : List Action)
    (o : LPOverlay) (hrun : construct.run intersects actions = some o)
    (hwaiting : o.thread = .waiting false) :
    o.modifiedCache = false ∧ o.keepThreadRunning = true ∧ o.rendered.Sublist o.flushed ∧
      ∀ fresh icons, LastFlush fresh icons actions →
        ∀ d ∈ o.displays, d.ShowsIcons intersects o.mainDisplayHeight icons := by
  have hkept : Kept intersects o := kept_construct.run hrun
  obtain ⟨hmodified, hkeep⟩ := hkept.awake hwaiting
  refine ⟨hmodified, hkeep, hkept.taken, fun fresh icons hflush ↦ ?_⟩
  obtain ⟨hupdating, hlast⟩ := hflush.run hrun
  exact hkept.showsIcons hwaiting hupdating hlast

/-- The bounds of two displays side by side. -/
def twoDisplays : List LPRect := [⟨⟨0, 0⟩, ⟨1920, 1080⟩⟩, ⟨⟨1920, 0⟩, ⟨1280, 1080⟩⟩]

/-- Two icons are flushed, taken, and drawn, one on each display. -/
theorem waiting_upToDate_once : ∃ o,
    construct.run overlap [.changeDisplays twoDisplays, .flush (fun _ ↦ 0) iconPerDisplay, .goOn,
      .goOn, .goOn, .goOn] = some o ∧ o.displays.length = 2 ∧
    ∀ d ∈ o.displays, d.ShowsIcons overlap o.mainDisplayHeight iconPerDisplay := by
  obtain ⟨o, hrun, hwaiting, hlength⟩ : ∃ o, construct.run overlap [.changeDisplays twoDisplays,
      .flush (fun _ ↦ 0) iconPerDisplay, .goOn, .goOn, .goOn, .goOn] = some o ∧
      o.thread = .waiting false ∧ o.displays.length = 2 := ⟨_, rfl, rfl, rfl⟩
  exact ⟨o, hrun, hlength, (waiting_upToDate overlap _ o hrun hwaiting).2.2.2 _ _
    ⟨[.changeDisplays twoDisplays], [.goOn, .goOn, .goOn, .goOn], rfl, by simp [Action.isQuiet]⟩⟩

/-! ### The thread by itself -/

/-- What the thread leaves alone while it draws. -/
structure SameWork (o o' : LPOverlay) : Prop extends SameFlush o o' where
  displays : o'.displays.length = o.displays.length
  modifiedCache : o'.modifiedCache = o.modifiedCache
  keepThreadRunning : o'.keepThreadRunning = o.keepThreadRunning
  rendered : o'.rendered = o.rendered

theorem SameWork.trans {o'' : LPOverlay} (h : SameWork o o') (h' : SameWork o' o'') :
    SameWork o o'' :=
  ⟨h.toSameFlush.trans h'.toSameFlush, h'.displays.trans h.displays,
    h'.modifiedCache.trans h.modifiedCache, h'.keepThreadRunning.trans h.keepThreadRunning,
    h'.rendered.trans h.rendered⟩

theorem run_replicate_succ {n : ℕ} {next : LPOverlay} (hnext : o.goOn intersects = some next) :
    o.run intersects (List.replicate (n + 1) .goOn) =
      next.run intersects (List.replicate n .goOn) := by
  rw [run, List.replicate_succ, List.foldlM_cons, step, hnext]
  rfl

/-- The loop over the displays. -/
theorem goOn_draws (intersects : LPRect → LPRect → Bool) {cache : Option LPOverlayCache} (k : ℕ) :
    ∀ {o : LPOverlay} {i : ℕ}, o.thread = .drawing cache i → i + k = o.displays.length →
      ∃ o', o.run intersects (List.replicate k .goOn) = some o' ∧
        o'.thread = .drawing cache o'.displays.length ∧ SameWork o o' := by
  induction k with
  | zero =>
    intro o i hthread hlength
    exact ⟨o, rfl, by rw [hthread, ← hlength, Nat.add_zero], ⟨rfl, rfl, rfl⟩, rfl, rfl, rfl, rfl⟩
  | succ k ih =>
    intro o i hthread hlength
    have hlt : i < o.displays.length := by omega
    have hgoOn := goOn_draw intersects hthread (List.getElem?_eq_getElem hlt)
    rw [run_replicate_succ hgoOn]
    have hdrawn : SameWork o (o.draw intersects cache i o.displays[i]) :=
      ⟨⟨rfl, rfl, rfl⟩, List.length_set, rfl, rfl, rfl⟩
    obtain ⟨o', hrun, hdone, hsame⟩ :=
      ih (o := o.draw intersects cache i o.displays[i]) (i := i + 1) rfl
        (by rw [hdrawn.displays]; omega)
    exact ⟨o', hrun, hdone, hdrawn.trans hsame⟩

/-- The thread has nothing to do. -/
structure Settled (o : LPOverlay) : Prop where
  waiting : o.keepThreadRunning = true → o.thread = .waiting false
  finished : o.keepThreadRunning = false → o.thread = .finished

/-- **With the mutex**, the thread has at most one round of drawings before it. -/
theorem resume_settles (intersects : LPRect → LPRect → Bool) (o : LPOverlay) :
    ∃ n ≤ o.displays.length + 1, ∃ o', o.resume.run intersects (List.replicate n .goOn) = some o' ∧
      o'.Settled ∧ o'.keepThreadRunning = o.keepThreadRunning ∧
      (o.keepThreadRunning = false → o'.rendered = o.rendered) := by
  rcases Bool.eq_false_or_eq_true o.keepThreadRunning with hkeep | hkeep
  · rcases Bool.eq_false_or_eq_true o.modifiedCache with hmodified | hmodified
    · rw [resume_modified hkeep hmodified]
      obtain ⟨o', hrun, hthread, hsame⟩ := goOn_draws intersects o.displays.length (o := { o with
          overlayCache := none
          modifiedCache := false
          thread := .drawing o.overlayCache 0
          rendered := o.rendered ++ [o.overlayCache] }) (i := 0) rfl (Nat.zero_add _)
      have hkeep' : o'.keepThreadRunning = true := hsame.keepThreadRunning.trans hkeep
      have hgoOn : o'.goOn intersects = some { o' with thread := .waiting false } := by
        rw [goOn_drawn hthread le_rfl, resume_unmodified hkeep' hsame.modifiedCache]
      refine ⟨_, le_rfl, { o' with thread := .waiting false }, ?_, ⟨fun _ ↦ rfl, fun hstopped ↦ ?_⟩,
        hkeep'.trans hkeep.symm, fun hstopped ↦ ?_⟩
      · rw [List.replicate_succ', run, PartialRun.foldlM_concat_eq_some]
        exact ⟨o', hrun, hgoOn⟩
      · exact Bool.noConfusion (hkeep'.symm.trans hstopped)
      · exact Bool.noConfusion (hkeep.symm.trans hstopped)
    · rw [resume_unmodified hkeep hmodified]
      exact ⟨0, Nat.zero_le _, _, rfl, ⟨fun _ ↦ rfl, fun h ↦ Bool.noConfusion (hkeep.symm.trans h)⟩,
        rfl, fun _ ↦ rfl⟩
  · rw [resume_stopped hkeep]
    exact ⟨0, Nat.zero_le _, _, rfl, ⟨fun h ↦ Bool.noConfusion (hkeep.symm.trans h), fun _ ↦ rfl⟩,
      rfl, fun _ ↦ rfl⟩

/-- **The thread by itself** comes to rest after at most two rounds of drawings, from wherever an
interleaving has left it: it waits, with the last flush on every screen if that was one of the
displays as they are, or it ends if the destructor asked for it, without having rendered anything
more. -/
theorem thread_settles (intersects : LPRect → LPRect → Bool) (actions : List Action)
    (o : LPOverlay) (hrun : construct.run intersects actions = some o) :
    ∃ n ≤ 2 * o.displays.length + 2, ∃ o',
      o.run intersects (List.replicate n .goOn) = some o' ∧
      (o.keepThreadRunning = true → o'.thread = .waiting false ∧
        ∀ fresh icons, LastFlush fresh icons actions →
          ∀ d ∈ o'.displays, d.ShowsIcons intersects o'.mainDisplayHeight icons) ∧
      (o.keepThreadRunning = false → o'.thread = .finished ∧ o'.rendered = o.rendered) := by
  have hkept : Kept intersects o := kept_construct.run hrun
  -- it is enough to come to rest: the invariant tells what is on the screens then
  suffices hrest : ∃ n ≤ 2 * o.displays.length + 2, ∃ o',
      o.run intersects (List.replicate n .goOn) = some o' ∧ o'.Settled ∧
      o'.keepThreadRunning = o.keepThreadRunning ∧
      (o.keepThreadRunning = false → o'.rendered = o.rendered) by
    obtain ⟨n, hn, o', hrun', hsettled, hkeep, hrendered⟩ := hrest
    refine ⟨n, hn, o', hrun', fun hrunning ↦ ?_, fun hstopped ↦
      ⟨hsettled.finished (hkeep.trans hstopped), hrendered hstopped⟩⟩
    have hwaiting := hsettled.waiting (hkeep.trans hrunning)
    refine ⟨hwaiting, fun fresh icons hflush ↦ ?_⟩
    have hsame : SameFlush o o' := sameFlush_run (fun action haction ↦ by
      rw [List.eq_of_mem_replicate haction]
      rfl) hrun'
    obtain ⟨hupdating, hlast⟩ := hflush.run hrun
    have hlast' : o'.flushed.getLast? = some (flush fresh o'.mainDisplayHeight icons) := by
      rw [hsame.flushed, hsame.mainDisplayHeight]
      exact hlast
    exact (hkept.run hrun').showsIcons hwaiting (hsame.updating.trans hupdating) hlast'
  -- from where the thread takes the mutex, and before that from the display that it draws
  have hresume : o.goOn intersects = some o.resume → ∃ n ≤ o.displays.length + 2, ∃ o',
      o.run intersects (List.replicate n .goOn) = some o' ∧ o'.Settled ∧
      o'.keepThreadRunning = o.keepThreadRunning ∧
      (o.keepThreadRunning = false → o'.rendered = o.rendered) := by
    intro hgoOn
    obtain ⟨n, hn, o', hrun', hrest⟩ := resume_settles intersects o
    exact ⟨n + 1, by omega, o', by rw [run_replicate_succ hgoOn, hrun'], hrest⟩
  cases hthread : o.thread with
  | starting =>
    obtain ⟨n, hn, hrest⟩ := hresume (by rw [goOn, hthread])
    exact ⟨n, by omega, hrest⟩
  | waiting notified =>
    cases notified with
    | true =>
      obtain ⟨n, hn, hrest⟩ := hresume (by rw [goOn, hthread])
      exact ⟨n, by omega, hrest⟩
    | false =>
      have hkeep := (hkept.awake hthread).2
      exact ⟨0, Nat.zero_le _, o, rfl,
        ⟨fun _ ↦ hthread, fun h ↦ Bool.noConfusion (hkeep.symm.trans h)⟩, rfl, fun _ ↦ rfl⟩
  | drawing cache i =>
    rcases Nat.lt_or_ge o.displays.length i with hlt | hle
    · obtain ⟨n, hn, hrest⟩ := hresume (goOn_drawn hthread hlt.le)
      exact ⟨n, by omega, hrest⟩
    · obtain ⟨k, hk⟩ := Nat.exists_eq_add_of_le hle
      obtain ⟨drawn, hdraws, hdone, hsame⟩ :=
        goOn_draws intersects k hthread hk.symm
      obtain ⟨n, hn, o', hrun', hsettled, hkeep, hrendered⟩ :=
        resume_settles intersects drawn
      refine ⟨k + (n + 1), by rw [hsame.displays] at hn; omega, o', ?_, hsettled,
        hkeep.trans hsame.keepThreadRunning, fun hstopped ↦
          (hrendered (hsame.keepThreadRunning.trans hstopped)).trans hsame.rendered⟩
      rw [List.replicate_add, run, PartialRun.foldlM_append_eq_some]
      refine ⟨drawn, hdraws, ?_⟩
      show drawn.run intersects (List.replicate (n + 1) .goOn) = some o'
      rw [run_replicate_succ (goOn_drawn hdone le_rfl), hrun']
  | finished =>
    have hkeep := hkept.ended hthread
    exact ⟨0, Nat.zero_le _, o, rfl,
      ⟨fun h ↦ Bool.noConfusion (hkeep.symm.trans h), fun _ ↦ hthread⟩, rfl, fun _ ↦ rfl⟩

/-- Icons are flushed twice while the thread draws. -/
theorem thread_settles_again : ∃ o,
    construct.run overlap [.changeDisplays twoDisplays, .flush (fun _ ↦ 0) iconPerDisplay, .goOn,
      .flush (fun _ ↦ 0) [], .flush (fun _ ↦ 0) iconPerDisplay] = some o ∧
    ∃ n ≤ 6, ∃ o', o.run overlap (List.replicate n .goOn) = some o' ∧
      o'.thread = .waiting false ∧
      ∀ d ∈ o'.displays, d.ShowsIcons overlap o'.mainDisplayHeight iconPerDisplay := by
  obtain ⟨o, hrun, hkeep, hlength⟩ : ∃ o, construct.run overlap [.changeDisplays twoDisplays,
      .flush (fun _ ↦ 0) iconPerDisplay, .goOn, .flush (fun _ ↦ 0) [],
      .flush (fun _ ↦ 0) iconPerDisplay] = some o ∧ o.keepThreadRunning = true ∧
      o.displays.length = 2 := ⟨_, rfl, rfl, rfl⟩
  obtain ⟨n, hn, o', hrun', hwaits, -⟩ := thread_settles overlap _ o hrun
  obtain ⟨hwaiting, hshown⟩ := hwaits hkeep
  exact ⟨o, hrun, n, by omega, o', hrun', hwaiting, hshown (fun _ ↦ 0) iconPerDisplay
    ⟨[.changeDisplays twoDisplays, .flush (fun _ ↦ 0) iconPerDisplay, .goOn,
      .flush (fun _ ↦ 0) []], [], rfl, nofun⟩⟩

end Runs

end LPOverlay

end Touchless
