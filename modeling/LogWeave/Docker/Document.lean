import LogWeave.Docker.Container
import LogWeave.Docker.Form.Container

/-! The engine's answers as documents: of their forms, what is kept. -/
namespace LogWeave.Docker

open Form

namespace Summary

def record : Json.Record Summary where
  name := "struct ContainerSummary"
  blank := ⟨none, [], none, none⟩
  fields := [
    field "Id" text fun s id => { s with id },
    looked "Names" texts, looked "Image" text, looked "ImageID" text, looked "Command" text,
    looked "Created" whole, looked "Ports" (Json.Reader.listOf port), looked "SizeRw" whole,
    looked "SizeRootFs" whole,
    field "Labels" textsByName fun s labels => { s with labels := labels.getD [] },
    field "State" text fun s state => { s with condition := state.bind Condition.ofName? },
    field "Status" text fun s words => { s with words },
    looked "HostConfig" listedHost, looked "NetworkSettings" listedNetworks,
    looked "Mounts" mountPoints]

/-- The containers of a list. -/
def readList (text : String) : Except Json.Fault (List Summary) :=
  Json.read (Json.Reader.listOf record.reader) text

end Summary

namespace State

/-- The names of conditions; a container may also have none. -/
def conditions : List (String × Option Condition) :=
  [("", none), ("created", some .created), ("running", some .running), ("paused", some .paused),
    ("restarting", some .restarting), ("removing", some .removing), ("exited", some .exited),
    ("dead", some .dead)]

def blank : State := ⟨none, false, false, none, none, none⟩

def record : Json.Record State where
  name := "struct ContainerState"
  blank := blank
  fields := [
    field "Status" (Json.Reader.choice conditions) fun s c => { s with condition := c.join },
    field "Running" flag fun s b => { s with running := b.getD false },
    looked "Paused" flag, looked "Restarting" flag,
    field "OOMKilled" flag fun s b => { s with killedForMemory := b.getD false },
    looked "Dead" flag, looked "Pid" whole,
    field "ExitCode" whole fun s code => { s with exitCode := code.map Int64.ofInt },
    field "Error" text fun s error => { s with error },
    field "StartedAt" text fun s startedAt => { s with startedAt },
    looked "FinishedAt" text, looked "Health" health]

end State

namespace Inspection

def record : Json.Record Inspection where
  name := "struct ContainerInspectResponse"
  blank := ⟨none, none⟩
  fields := [
    field "Id" text fun i id => { i with id },
    looked "Created" text, looked "Path" text, looked "Args" texts,
    field "State" State.record.reader fun i state => { i with state },
    looked "Image" text, looked "ResolvConfPath" text, looked "HostnamePath" text,
    looked "HostsPath" text, looked "LogPath" text, looked "Name" text,
    looked "RestartCount" whole, looked "Driver" text, looked "Platform" text,
    looked "MountLabel" text, looked "ProcessLabel" text, looked "AppArmorProfile" text,
    looked "ExecIDs" texts, looked "HostConfig" host, looked "GraphDriver" storage,
    looked "SizeRw" whole, looked "SizeRootFs" whole, looked "Mounts" mountPoints,
    looked "Config" process, looked "NetworkSettings" networks]

def read (text : String) : Except Json.Fault Inspection := Json.read record.reader text

end Inspection

end LogWeave.Docker
