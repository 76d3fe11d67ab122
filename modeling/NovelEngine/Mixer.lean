import NovelEngine.Registry

/-!
Contract: music channels and queued sound effects.

Owns: the track on each channel and the bounded queue of sounds the host has yet
to play.

Does not own: playback.
-/

namespace NovelEngine

/-- Sounds kept for the host before the oldest are dropped. -/
def soundLimit : Nat :=
  64

structure Track where
  name : String
  volume : Nat
  fadeIn : Nat
deriving DecidableEq, Repr

structure Mixer where
  channels : Registry Nat Track := {}
  sounds : List String := []
deriving DecidableEq, Repr, Inhabited

namespace Mixer

def track? (mixer : Mixer) (channel : Nat) : Option Track :=
  mixer.channels.find? channel

def playMusic (mixer : Mixer) (channel : Nat) (track : Track) : Mixer :=
  { mixer with channels := mixer.channels.insert channel track }

/-- Silences a channel. The frames to wait are `fadeOut`, or none if it was silent. -/
def stopMusic (mixer : Mixer) (channel fadeOut : Nat) : Mixer × Nat :=
  match mixer.track? channel with
  | some _ => ({ mixer with channels := mixer.channels.erase channel }, fadeOut)
  | none => (mixer, 0)

def playSound (mixer : Mixer) (name : String) : Mixer :=
  let kept := if mixer.sounds.length = soundLimit then mixer.sounds.drop 1 else mixer.sounds
  { mixer with sounds := kept ++ [name] }

/-- Hands over the queued sounds, oldest first. -/
def takeSounds (mixer : Mixer) : List String × Mixer :=
  (mixer.sounds, { mixer with sounds := [] })

end Mixer

end NovelEngine
