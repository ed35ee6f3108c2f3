import Playback.Demo.Script

set_option autoImplicit false

namespace Playback.Demo.Middleman

def channelId : UInt32 := 1

/-- The number of the middleman's process, which nothing that is printed depends on. -/
def pid : UInt32 := 1

def socketFolder : String := "/tmp"

def peer : String := "middleman"

def launchOptions : List String :=
  ["--child", LaunchOption.middlemanPid.name, toString pid.toNat, LaunchOption.channelId.name,
    toString channelId.toNat]

def environment (name : String) : Option String :=
  if name = Setting.socketFolder.variable then some socketFolder else none

def childConfig : Except Failure Config := do
  let config ← Config.ofArguments .replaying launchOptions
  config.overlay environment

def manifest : String := "hello from the middleman"

/-- The child says the manifest loudly, and how much there is of the recording. -/
def childHost : Host where
  style := .scripted
  scripts := [[[.printLog ("Running manifest " ++ Quoted.quote manifest)]]]
  output run :=
    { data := Utf8.encode ((Utf8.decodeLossy run.manifest).toUpper ++ " (recording has " ++
        toString run.recording.length ++ " bytes)") }

def greetings : List Message :=
  [.introduction pid ["--x", "--y"], .recordingData 0 0 (Utf8.encode "demo recording bytes"),
    .manifestStart rootFork (Utf8.encode manifest)]

/-- The network, on which the folder of the sockets is there already. -/
def network : Network where
  disk := ({} : Disk).makeFolders (Disk.placeOf socketFolder)

/-- Texts between brackets, each in quotes. -/
def quotedList (texts : List String) : String :=
  "[" ++ ", ".intercalate (texts.map Quoted.quote) ++ "]"

def introductionLine (machine : Machine) : List String :=
  match (machine.context? 0).bind fun child =>
      child.introduction.map fun content => (content.argv, child.recording.length) with
  | none => []
  | some (argv, length) =>
    ["Child: introduced with argv " ++ quotedList argv ++ ", recording has " ++
      toString length ++ " bytes"]

/-- What the middleman prints of a message. Errors go elsewhere. -/
def messageLine? (message : Message) : Option String :=
  match message.kind with
  | .manifestFinished | .fatalError | .criticalError => none
  | kind => some ("Middleman: received " ++ kind.name)

def resultLine (messages : List Message) : String :=
  match messages.filterMap Script.finishedText? with
  | text :: _ => "Middleman: manifest finished: " ++ text
  | [] => "Middleman: no result before shutdown"

def exitLine (machine : Machine) : List String :=
  if (machine.context? 0).any Context.exiting then ["Middleman: child exited with exit status: 0"]
  else []

/-- What is printed when a middleman starts a replaying child, introduces it, and hands it some
bytes of a recording and one manifest. -/
def lines : List String :=
  match childConfig with
  | .error failure => [failure.message]
  | .ok config =>
    let machine := Machine.ofSeats network [{ config, host := childHost, channel := none }]
    let listening := Script.run machine 0 [.outside (.listen pid channelId peer)]
    let begun := Script.runMain listening 0 [.outside (.connectMiddleman true)]
    let introduced := Script.deliverAll begun 0 peer greetings
    let served := Script.runMain introduced 0 [.serve]
    let messages := Script.heard served peer
    introductionLine introduced ++ messages.filterMap messageLine? ++ [resultLine messages] ++
      exitLine (Script.deliverAll served 0 peer [.terminate rootFork])

end Playback.Demo.Middleman
