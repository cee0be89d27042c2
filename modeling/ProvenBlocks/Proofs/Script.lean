import ProvenBlocks.Script

/-!
Running scripts. A bind runs its first part and goes on in the world that this part leaves; each
single effect is answered at once. These equations let a proof follow a script effect by effect.
-/

namespace ProvenBlocks
namespace Script

variable {α β σ : Type} (platform : Platform σ) (world : World σ)

@[simp] theorem run_pure (value : α) :
    (pure value : Script α).run platform world = (.ok value, world) := rfl

theorem run_bind (script : Script α) (following : α → Script β) :
    (script >>= following).run platform world =
      match script.run platform world with
      | (.ok value, after) => (following value).run platform after
      | (.error overflow, after) => (.error overflow, after) :=
  run_and_then platform script following world

@[simp] theorem run_stop (overflow : Overflow) :
    (stop overflow : Script α).run platform world = (.error overflow, world) := rfl

@[simp] theorem run_create_writer :
    createWriter.run platform world =
      (.ok (platform.create world.platform).1,
        { world with platform := (platform.create world.platform).2 }) := rfl

@[simp] theorem run_open_block (writer : WriterId) (number : UInt64) :
    (openBlock writer number).run platform world =
      (.ok (platform.openBlock writer number world.platform).1,
        { world with platform := (platform.openBlock writer number world.platform).2 }) := rfl

@[simp] theorem run_write_item (writer : WriterId) (content : Bytes) :
    (writeItem writer content).run platform world =
      (.ok (platform.writeItem writer content world.platform).1,
        { world with platform := (platform.writeItem writer content world.platform).2 }) := rfl

@[simp] theorem run_close_block (writer : WriterId) :
    (closeBlock writer).run platform world =
      (.ok (platform.closeBlock writer world.platform).1,
        { world with platform := (platform.closeBlock writer world.platform).2 }) := rfl

@[simp] theorem run_release (writer : WriterId) :
    (release writer).run platform world =
      (.ok (), { world with platform := platform.release writer world.platform }) := rfl

@[simp] theorem run_save (checkpoint : Checkpoint) :
    (save checkpoint).run platform world =
      (.ok (platform.save checkpoint world.platform).1,
        { world with platform := (platform.save checkpoint world.platform).2 }) := rfl

@[simp] theorem run_request_signature (hash : Digest) :
    (requestSignature hash).run platform world =
      (.ok (), { world with requests := world.requests ++ [hash] }) := rfl

@[simp] theorem run_read_view : readView.run platform world = (.ok world.view, world) := rfl

@[simp] theorem run_write_view (view : View) :
    (writeView view).run platform world = (.ok (), { world with view := view }) := rfl

@[simp] theorem run_resolve (signed : Digest) :
    (resolve signed).run platform world =
      (.ok (world.unproven.resolve signed).1,
        { world with unproven := (world.unproven.resolve signed).2 }) := rfl

@[simp] theorem run_count (counter : Counter) :
    (count counter).run platform world =
      (.ok (), { world with counters := world.counters.increment counter }) := rfl

theorem run_enqueue_ok {block : UnprovenBlock WriterId} {unproven : UnprovenRun WriterId}
    (pushed : world.unproven.push block = .ok unproven) :
    (enqueue block).run platform world = (.ok (.ok ()), { world with unproven := unproven }) := by
  simp only [enqueue, ask, run, World.answer, pushed]

theorem run_enqueue_error {block : UnprovenBlock WriterId} {failure : Failure}
    (refused : world.unproven.push block = .error failure) :
    (enqueue block).run platform world = (.ok (.error failure), world) := by
  simp only [enqueue, ask, run, World.answer, refused]

end Script
end ProvenBlocks
