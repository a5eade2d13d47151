import Rearrangement.Service.Answer

/-!
# Saves under way

Requests to save are answered in steps, and the steps of several requests may come in any order.  A
request holds a lock from before it looks up its scene until both its files are written, and no two
requests hold it at the same time.

A step reads the body, acquires the lock, looks the scene up, replaces one of the two files, or
answers (`SaveStage.next`).  Between two steps of one request all kinds of steps of others may come,
so what a request has found is kept in its stage.  A request that waits makes no progress until the
lock is free, and takes it then.

Requests are known by their numbers.  Nothing is said of the order in which they make their steps,
or that each of them makes all of its steps (`Schedule.run`).
-/

namespace Rearrangement.Service

open Http

/-- How far a request to save has come. -/
inductive SaveStage
  | received (sceneId : String) (body : ByteArray)
  /-- The body has been read, and the lock is awaited. -/
  | waiting (sceneId : String) (payload : SavePayload Float)
  | locked (sceneId : String) (payload : SavePayload Float)
  | resolved (sceneId : String) (payload : SavePayload Float) (scene : SceneDocument Float)
  | halfWritten (sceneId : String) (payload : SavePayload Float) (scene : SceneDocument Float)
  | written (sceneId : String) (payload : SavePayload Float)
  /-- The save has failed, and the lock is still held. -/
  | failed (error : StoreError)
  | answered (response : Response)

namespace SaveStage

/-- Whether a request holds the lock. -/
def holdsLock : SaveStage → Bool
  | received _ _ | waiting _ _ | answered _ => false
  | _ => true

/-- The stage after changes. -/
def afterChanges (next : SaveStage) : Except FileError Unit → SaveStage
  | .ok () => next
  | .error e => failed (.unwritable e)

/-- The next step of a request, where `lockFree` tells whether nobody holds the lock. -/
def next (s : Settings) (lockFree : Bool) (disk : Disk) : SaveStage → Disk × SaveStage
  | received id body =>
      match payload? body with
      | some p => (disk, waiting id p)
      | none => (disk, answered (.bare 400))
  | waiting id p => (disk, if lockFree then locked id p else waiting id p)
  | locked id p =>
      match Store.document s disk.tree id with
      | .ok d => (disk, resolved id p d)
      | .error e => (disk, failed e)
  | resolved id p d =>
      let (disk, r) := disk.changeAll (Store.trajectoryChanges s id p)
      (disk, afterChanges (halfWritten id p d) r)
  | halfWritten id p d =>
      let (disk, r) := disk.changeAll (Store.problemChanges s id d p)
      (disk, afterChanges (written id p) r)
  | written _ _ => (disk, answered saved)
  | failed e => (disk, answered (.bare (statusOf e)))
  | answered r => (disk, answered r)

end SaveStage

/-- The disk and the requests to save, each by its number. -/
structure Schedule where
  disk : Disk
  requests : List SaveStage

namespace Schedule

/-- Whether no request holds the lock. -/
def lockFree (c : Schedule) : Bool := !c.requests.any SaveStage.holdsLock

/-- Let the request of the given number make its next step. -/
def step (s : Settings) (c : Schedule) (n : Nat) : Schedule :=
  match c.requests[n]? with
  | none => c
  | some stage =>
      let (disk, stage) := stage.next s c.lockFree c.disk
      ⟨disk, c.requests.set n stage⟩

/-- Let requests make steps in the given order. -/
def run (s : Settings) (c : Schedule) (order : List Nat) : Schedule := order.foldl (step s) c

end Schedule

end Rearrangement.Service
