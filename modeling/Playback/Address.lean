import Playback.Bytes

set_option autoImplicit false

namespace Playback

/-- A name below a folder. The empty folder is the current one, and a name that begins at the
top stands for itself. -/
def joinPath (folder name : String) : String :=
  if name.startsWith "/" then name
  else if folder.isEmpty || folder.endsWith "/" then folder ++ name
  else folder ++ "/" ++ name

/-- The socket file of a listening process for one of its channels. -/
def socketName (pid channel : UInt32) : String :=
  "replay-ipc-" ++ toString pid.toNat ++ "-" ++ toString channel.toNat ++ ".sock"

def socketPath (folder : String) (pid channel : UInt32) : String :=
  joinPath folder (socketName pid channel)

/-- The longest path of a socket file, in bytes. -/
def socketPathLimit : Nat := 107

structure Announcement where
  pid : UInt32
  fork : UInt32
  deriving DecidableEq, Repr

def Announcement.encode (announcement : Announcement) : Bytes :=
  word32 announcement.pid ++ word32 announcement.fork

/-- The announcement in the first eight bytes. -/
def Announcement.decode (bytes : Bytes) : Announcement where
  pid := ofWord32 (bytes.take 4)
  fork := ofWord32 ((bytes.drop 4).take 4)

@[simp] theorem Announcement.decode_encode (announcement : Announcement) :
    decode announcement.encode = announcement := by
  have first : (word32 announcement.pid ++ word32 announcement.fork).take 4 =
      word32 announcement.pid := List.take_left' (length_word32 _)
  have second : (word32 announcement.pid ++ word32 announcement.fork).drop 4 =
      word32 announcement.fork := List.drop_left' (length_word32 _)
  have whole : (word32 announcement.fork).take 4 = word32 announcement.fork :=
    List.take_of_length_le (by simp)
  simp only [decode, encode, first, second, whole, ofWord32_word32]

end Playback
