/-!
# Pages

A list of `total` rows cut into pages of `perPage`, and the number of the page that is shown.  Every
operation leaves a page that exists.
-/

namespace ClusterNav
namespace Select

/-- Which page of a list is shown. -/
structure Paginator where
  perPage : Nat
  page : Nat
  total : Nat
deriving DecidableEq, Repr, Inhabited

namespace Paginator

/-- The first page of an empty list; a page has at least one row. -/
def new (perPage : Nat) : Paginator where
  perPage := max perPage 1
  page := 0
  total := 0

/-- Number of pages, at least one. -/
def pages (p : Paginator) : Nat :=
  max ((p.total + p.perPage - 1) / p.perPage) 1

/-- The same pages with another number of rows; a page past the end becomes the last. -/
def setTotal (p : Paginator) (total : Nat) : Paginator :=
  let q := { p with total := total }
  { q with page := min q.page (q.pages - 1) }

/-- The same rows on pages of another size. -/
def setPerPage (p : Paginator) (perPage : Nat) : Paginator :=
  let q := { p with perPage := max perPage 1 }
  { q with page := min q.page (q.pages - 1) }

/-- The page that holds a row. -/
def follow (p : Paginator) (cursor : Nat) : Paginator :=
  { p with page := min (cursor / p.perPage) (p.pages - 1) }

/-- First row of the page, and the row after its last. -/
def bounds (p : Paginator) : Nat × Nat :=
  let start := min (p.page * p.perPage) p.total
  (start, min (start + p.perPage) p.total)

@[simp]
theorem total_setPerPage (p : Paginator) (n : Nat) : (p.setPerPage n).total = p.total := rfl

@[simp]
theorem total_follow (p : Paginator) (cursor : Nat) : (p.follow cursor).total = p.total := rfl

@[simp]
theorem perPage_follow (p : Paginator) (cursor : Nat) :
    (p.follow cursor).perPage = p.perPage := rfl

end Paginator
end Select
end ClusterNav
