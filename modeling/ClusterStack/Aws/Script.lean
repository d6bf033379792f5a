import ClusterStack.Program
/-!
# Scripted replies

A rehearsed outside: the replies to each operation are laid down in advance. Each is given a number
of times before the next one takes its place, the last one without end, and an operation without
replies answers nothing successfully.
-/
namespace ClusterStack.Aws

/-- A reply with the number of times that it is given while another one follows it. -/
structure Cue where
  reply : Reply
  times : Int

abbrev Script := List (String × List Cue)

/-- The reply of an operation that nothing is laid down for. -/
def silence : Reply := .exited 0 [] []

def nextReply (operation : String) : Script → Reply × Script
  | [] => (silence, [])
  | (name, cues) :: rest =>
    if name == operation then
      match cues with
      | [] => (silence, (name, []) :: rest)
      | [cue] => (cue.reply, (name, [cue]) :: rest)
      | cue :: next :: more =>
        let left := if 1 < cue.times then { cue with times := cue.times - 1 } :: next :: more
          else next :: more
        (cue.reply, (name, left) :: rest)
    else
      let (reply, left) := nextReply operation rest
      (reply, (name, cues) :: left)

def scripted : Backend Script := fun script call => nextReply call.operation script

end ClusterStack.Aws
