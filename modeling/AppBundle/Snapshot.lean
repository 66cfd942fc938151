import AppBundle.Reading
import AppBundle.Tree

/-!
# Snapshots of a project

A snapshot remembers every answer that the project tree gave about a path, the absence of a file
included, and gives the same answer from then on, however the tree changes. A read that fails is
not remembered. It counts the lookups of paths below the project root and the lookups that reached
the tree.
-/

namespace AppBundle

/-- What was read of the project at an absolute path. -/
structure Snapshot where
  root : Path
  lookups : Nat := 0
  treeReads : Nat := 0
  entries : Catalog Path (Option ProjectFile) := Catalog.empty

namespace Snapshot

/-- A snapshot that has seen nothing yet. -/
def new (root : Path) : Snapshot := { root }

def size (s : Snapshot) : Nat := s.entries.size

/-- What the tree says about a normal path below the root. A directory, and a link to one, is no
file; a link that leads nowhere is kept without content. -/
def load (t : Tree) (root key : Path) : Answer :=
  let path := root.resolveFrom key
  let failed := .error (.unreadable path)
  match t.statusOfName [] path with
  | .error e => if e.isAbsence then .ok none else failed
  | .ok .dir => .ok none
  | .ok (.file content permissions) =>
    .ok (some { path := key, kind := .regular, mode := 0o100000 + permissions, content })
  | .ok (.link target) =>
    let shipped (content : ByteArray) : Answer :=
      .ok (some { path := key, kind := .symlink target, mode := 0o120777, content })
    match t.status [] path with
    | .ok (.file content _) => shipped content
    | .ok _ => .ok none
    | .error e => if e.isAbsence then shipped ByteArray.empty else failed

/-- Reads a file through the snapshot. -/
def read (s : Snapshot) (t : Tree) (p : Path) : Answer × Snapshot :=
  match p.normalize with
  | none => (.error (.outsideRoot p), s)
  | some key =>
    let s := { s with lookups := s.lookups + 1 }
    match s.entries.find? key with
    | some known => (.ok known, s)
    | none =>
      let s := { s with treeReads := s.treeReads + 1 }
      match load t s.root key with
      | .error e => (.error e, s)
      | .ok loaded => (.ok loaded, { s with entries := s.entries.insert key loaded })

/-- Answers every request of a reading through the snapshot. -/
def run {α : Type} (t : Tree) : Snapshot → Reading α → Except Stray α × Snapshot
  | s, .done a => (.ok a, s)
  | s, .ask p next =>
    match s.read t p with
    | (r, s) => run t s (next r)
  | s, .stray p => (.error p, s)

/-- The answers of a snapshot that has seen nothing, about a tree that does not change. -/
def source (t : Tree) (root : Path) (p : Path) : Answer :=
  match p.normalize with
  | none => .error (.outsideRoot p)
  | some key => load t root key

end Snapshot

end AppBundle
