import ClusterNav.Host

/-!
# The rows of a frame

A frame has exactly as many rows as the screen.  When the parts need more, rows
are given away in one order: the body first, then the banner, then the footer
from its top, then the header from its end.

The order is stated on its own, as what may be missing from a frame once
something else is missing; together with the number of rows it leaves one frame.

**Results.**
* `fit_eq`: the frame in closed form, part by part.
* `fit_eq_of_inOrder`: the order leaves one frame of a height.
* `frame_rows`: every frame has the height of the screen and gives rows away in
  order; its first line is the line of the scopes, and from three rows on its
  last line is the last line below the top view.
-/

namespace ClusterNav
namespace Frame

/-- What a frame keeps of its parts: first lines of the header, the banner, rows of
the body, and last lines of the footer. -/
structure Kept where
  header : Nat
  banner : Bool
  body : Nat
  footer : Nat

namespace Kept

/-- The rows of what is kept; the body is cut or padded with blank lines. -/
def rows (k : Kept)
    (header : List Line) (banner : Option Line) (body footer : List Line) :
    List Line :=
  stack (header.take k.header) (if k.banner then banner else none)
    (resized body k.body) (footer.drop (footer.length - k.footer))

/-- A part gives rows away only when all parts before it in the order are gone.  Each part is
ordered after every one before it, as any of those between may be empty. -/
structure InOrder (k : Kept) (header footer : List Line) : Prop where
  header_le : k.header ≤ header.length
  footer_le : k.footer ≤ footer.length
  banner_after_body : k.banner = false → k.body = 0
  footer_after_banner_body : k.footer < footer.length → k.banner = false ∧ k.body = 0
  header_after_banner_body : k.header < header.length → k.banner = false ∧ k.body = 0
  header_after_footer : k.header < header.length → k.footer = 0

end Kept

theorem length_stack
    (header : List Line) (banner : Option Line) (body footer : List Line) :
    (stack header banner body footer).length =
      header.length + banner.toList.length + body.length + footer.length := by
  simp [stack, Nat.add_assoc]

/-- Cutting a padded text again leaves a text padded to fewer rows. -/
theorem take_resized
    (lines : List Line) {n m : Nat}
    (h : n ≤ m) :
    (resized lines m).take n = resized lines n := by
  rw [resized, resized, List.take_append, List.take_take, List.length_take,
    List.take_replicate, Nat.min_eq_left h]
  have hblank : min (n - min m lines.length) (m - lines.length) = n - lines.length := by
    omega
  rw [hblank]

section Fit

variable (header : List Line) (banner : Option Line) (body footer : List Line)

/-- A frame, part by part. -/
theorem fit_eq
    {height : Nat}
    (hpos : 0 < height) :
    fit header banner body footer height =
      stack (header.take height)
        (if header.length + footer.length < height then banner else none)
        (resized body (height - (header.length + banner.toList.length + footer.length)))
        (footer.drop (header.length + footer.length - height)) := by
  have hbanner : banner.toList.length ≤ 1 := by
    cases banner <;> simp
  simp only [fit, Nat.ne_of_gt hpos, if_false]
  generalize hb : banner.toList.length = b at hbanner
  generalize hf : header.length + b + footer.length = fixed
  -- Once the body is gone, what is left to give away are the rows of the other parts.
  have hexcess :
      fixed + max (height - fixed) 1 - height -
          min (fixed + max (height - fixed) 1 - height) (max (height - fixed) 1) =
        fixed - height := by
    omega
  have hrows :
      max (height - fixed) 1 -
          min (fixed + max (height - fixed) 1 - height) (max (height - fixed) 1) =
        height - fixed := by
    omega
  rw [hexcess, take_resized body (Nat.sub_le _ _), hrows]
  congr 1
  · rw [List.take_eq_take_iff]
    omega
  · cases banner with
    | none =>
        simp
    | some line =>
        have hone : b = 1 := by
          simpa using hb.symm
        congr 1
        apply propext
        omega
  · congr 1
    omega

/-- What a frame of `height` rows keeps. -/
def keptAt (height : Nat) : Kept where
  header := min height header.length
  banner := header.length + footer.length < height
  body := height - (header.length + banner.toList.length + footer.length)
  footer := min (height - header.length) footer.length

theorem fit_eq_rows
    {height : Nat}
    (hpos : 0 < height) :
    fit header banner body footer height =
      (keptAt header banner footer height).rows header banner body footer := by
  rw [fit_eq header banner body footer hpos, Kept.rows]
  congr 1
  · rw [List.take_eq_take_iff]
    simp [keptAt]
  · simp [keptAt]
  · rw [List.drop_eq_drop_iff]
    simp only [keptAt]
    omega

theorem inOrder_keptAt (height : Nat) :
    (keptAt header banner footer height).InOrder header footer where
  header_le := Nat.min_le_right _ _
  footer_le := Nat.min_le_right _ _
  banner_after_body := by
    simp only [keptAt, decide_eq_false_iff_not]
    omega
  footer_after_banner_body := by
    simp only [keptAt, decide_eq_false_iff_not]
    omega
  header_after_banner_body := by
    simp only [keptAt, decide_eq_false_iff_not]
    omega
  header_after_footer := by
    simp only [keptAt]
    omega

theorem length_rows
    {k : Kept}
    (h : k.InOrder header footer) :
    (k.rows header banner body footer).length =
      k.header + (if k.banner then banner.toList.length else 0) + k.body + k.footer := by
  have hheader := h.header_le
  have hfooter := h.footer_le
  have hbanner : (if k.banner then banner else none).toList.length =
      if k.banner then banner.toList.length else 0 := by
    cases k.banner <;> rfl
  rw [Kept.rows, length_stack, length_resized, hbanner, List.length_take, List.length_drop]
  omega

/-- The order leaves one frame of a height. -/
theorem fit_eq_of_inOrder
    {k : Kept}
    (h : k.InOrder header footer)
    {height : Nat}
    (hpos : 0 < height)
    (hrows : (k.rows header banner body footer).length = height) :
    fit header banner body footer height = k.rows header banner body footer := by
  rw [length_rows header banner body footer h] at hrows
  obtain ⟨hheader, hfooter, hbanner, hcut, hshort, hnone⟩ := h
  rw [fit_eq header banner body footer hpos, Kept.rows]
  -- Which parts are whole is decided by whether the banner is kept.
  cases hkept : k.banner with
  | true =>
      simp only [hkept, Bool.true_eq_false, false_and, imp_false, if_true] at hcut hshort hrows
      congr 1
      · rw [List.take_eq_take_iff]
        omega
      · cases banner with
        | none =>
            simp
        | some line =>
            simp only [Option.toList_some, List.length_singleton] at hrows
            rw [if_pos (by omega), if_pos rfl]
      · congr 1
        omega
      · congr 1
        omega
  | false =>
      have hbody := hbanner hkept
      simp only [hkept, Bool.false_eq_true, if_false] at hrows
      congr 1
      · rw [List.take_eq_take_iff]
        omega
      · rw [if_neg (by omega)]
        rfl
      · congr 1
        omega
      · rw [List.drop_eq_drop_iff]
        omega

theorem length_fit
    {height : Nat}
    (hpos : 0 < height) :
    (fit header banner body footer height).length = height := by
  have hbanner : banner.toList.length ≤ 1 := by
    cases banner <;> simp
  rw [fit_eq header banner body footer hpos, length_stack, length_resized,
    List.length_take, List.length_drop]
  by_cases hroom : header.length + footer.length < height
  · rw [if_pos hroom]
    omega
  · rw [if_neg hroom]
    simp only [Option.toList_none, List.length_nil]
    omega

theorem head?_fit
    {height : Nat}
    (hpos : 0 < height)
    (hheader : header ≠ []) :
    (fit header banner body footer height).head? = header.head? := by
  obtain ⟨first, rest, rfl⟩ := List.exists_cons_of_ne_nil hheader
  obtain ⟨n, rfl⟩ := Nat.exists_eq_succ_of_ne_zero (Nat.ne_of_gt hpos)
  rw [fit_eq _ banner body footer hpos]
  simp [stack]

/-- Once there is room for more than the header, the last line of a frame is the
last line of its footer. -/
theorem getLast?_fit
    {height : Nat}
    (hroom : header.length < height)
    (hfooter : footer ≠ []) :
    (fit header banner body footer height).getLast? = footer.getLast? := by
  have hlength : 0 < footer.length := List.length_pos_iff.mpr hfooter
  have hcut : header.length + footer.length - height < footer.length := by
    omega
  rw [fit_eq header banner body footer (by omega), stack, List.getLast?_append,
    List.getLast?_drop, if_neg (by omega)]
  cases hlast : footer.getLast? with
  | none =>
      exact absurd (List.getLast?_eq_none_iff.mp hlast) hfooter
  | some line =>
      rfl

end Fit
end Frame

namespace View

/-- Every view has a status line and a line of keys. -/
theorem length_footer (v : View) : v.footer.length = 2 := by
  cases v <;> rfl

theorem footer_ne_nil (v : View) : v.footer ≠ [] := by
  intro h
  have := v.length_footer
  simp [h] at this

end View

open ClusterNav.Frame in
/-- A frame has as many rows as the screen, gives rows away in order, and is the
only one that does.  The line of the scopes always comes first, and from three rows
on the last line below the top view comes last. -/
theorem frame_rows :
    (∀ (header : List Line) (banner : Option Line) (body footer : List Line) (height : Nat),
      0 < height →
        (fit header banner body footer height).length = height ∧
        (∃ k : Kept,
          k.InOrder header footer ∧
          fit header banner body footer height = k.rows header banner body footer) ∧
        ∀ k : Kept,
          k.InOrder header footer →
          (k.rows header banner body footer).length = height →
          fit header banner body footer height = k.rows header banner body footer) ∧
    (∀ h : Host,
      0 < h.height →
        h.frame.length = h.height ∧
        (∃ k : Kept,
          k.InOrder [h.scopeLine, h.crumbLine] h.top.footer ∧
          h.frame =
            k.rows [h.scopeLine, h.crumbLine] h.banner? h.top.body h.top.footer) ∧
        h.frame.head? = some h.scopeLine ∧
        (3 ≤ h.height →
          h.top.footer ≠ [] ∧
          h.frame.getLast? = h.top.footer.getLast?)) := by
  constructor
  · intro header banner body footer height hpos
    exact
      ⟨length_fit header banner body footer hpos,
        ⟨_, inOrder_keptAt header banner footer height,
          fit_eq_rows header banner body footer hpos⟩,
        fun _ horder hrows => fit_eq_of_inOrder header banner body footer horder hpos hrows⟩
  · intro h hpos
    refine
      ⟨length_fit _ _ _ _ hpos,
        ⟨_, inOrder_keptAt _ h.banner? _ h.height, fit_eq_rows _ _ _ _ hpos⟩, ?_, ?_⟩
    · exact head?_fit _ _ _ _ hpos (List.cons_ne_nil _ _)
    · intro hthree
      exact ⟨h.top.footer_ne_nil, getLast?_fit _ _ _ _ hthree h.top.footer_ne_nil⟩

open ClusterNav.Frame in
/-- Three rows hold the header and one line of the footer; a screen of three rows
still ends with the keys of the list. -/
theorem frame_rows_three :
    let header : List Line := [.ofText "scope", .ofText "trail"]
    let footer : List Line := [.ofText "status", .ofText "keys"]
    let h : Host :=
      { Host.ofKind (.ofRegistry .standard .empty) .workload with height := 3 }
    let k : Kept := { header := 2, banner := false, body := 0, footer := 1 }
    0 < 3 ∧
    (fit header (some (.ofText "oops")) [.ofText "row"] footer 3).length = 3 ∧
    k.InOrder header footer ∧
    (k.rows header (some (.ofText "oops")) [.ofText "row"] footer).length = 3 ∧
    fit header (some (.ofText "oops")) [.ofText "row"] footer 3 =
      k.rows header (some (.ofText "oops")) [.ofText "row"] footer ∧
    0 < h.height ∧ 3 ≤ h.height ∧
    h.frame.length = 3 ∧
    h.frame.head? = some h.scopeLine ∧
    h.frame.getLast? = h.top.footer.getLast? := by
  intro header footer h k
  have hpos : 0 < h.height := by decide
  have hthree : 3 ≤ h.height := by decide
  have horder : k.InOrder header footer :=
    ⟨by decide, by decide, by decide, by decide, by decide, by decide⟩
  have hrows :
      (k.rows header (some (.ofText "oops")) [.ofText "row"] footer).length = 3 := by
    decide
  obtain ⟨hlines, -, honly⟩ :=
    frame_rows.1 header (some (.ofText "oops")) [.ofText "row"] footer 3 (by decide)
  obtain ⟨hlength, -, hhead, hlast⟩ := frame_rows.2 h hpos
  exact
    ⟨by decide, hlines, horder, hrows, honly k horder hrows, hpos, hthree, hlength, hhead,
      (hlast hthree).2⟩

end ClusterNav
