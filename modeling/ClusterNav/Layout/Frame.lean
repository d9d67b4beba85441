import ClusterNav.Style

/-!
# Frames

A frame stacks header, banner, body and footer into exactly the rows of the screen.  The body is cut
or padded to the room that is left.  When there is no room, rows go in a fixed order: the body, the
banner, the footer from its top, the header from its end.
-/

namespace ClusterNav
namespace Frame

/-- Rows of the scope line and the breadcrumb line. -/
def headerRows : Nat := 2

/-- Rows around the body. -/
def reservedRows (banner : Bool) (footer : Nat) : Nat :=
  headerRows + (if banner then 1 else 0) + footer

/-- Lines cut or padded with blank lines to a number of rows. -/
def resized (lines : List Line) (rows : Nat) : List Line :=
  lines.take rows ++ List.replicate (rows - lines.length) .blank

theorem length_resized (lines : List Line) (rows : Nat) : (resized lines rows).length = rows := by
  rw [resized, List.length_append, List.length_take, List.length_replicate]
  omega

/-- The parts one above the other. -/
def stack (header : List Line) (banner : Option Line) (body footer : List Line) : List Line :=
  header ++ banner.toList ++ body ++ footer

/-- The frame of a screen of `height` rows; a screen without height shows all lines. -/
def fit (header : List Line) (banner : Option Line) (body footer : List Line) (height : Nat) :
    List Line :=
  if height = 0 then stack header banner body footer
  else
    let fixed := header.length + banner.toList.length + footer.length
    let bodyRows := max (height - fixed) 1
    let excess := fixed + bodyRows - height
    let keptBody := bodyRows - min excess bodyRows
    let excess := excess - min excess bodyRows
    let keptBanner := if excess = 0 then banner else none
    let excess := excess - min excess banner.toList.length
    let keptFooter := footer.drop excess
    let excess := excess - min excess footer.length
    stack (header.take (header.length - excess)) keptBanner
      ((resized body bodyRows).take keptBody) keptFooter

end Frame
end ClusterNav
