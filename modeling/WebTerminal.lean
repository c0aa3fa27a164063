import WebTerminal.Auth.Eviction
import WebTerminal.Auth.LockoutHistory
import WebTerminal.Auth.SessionStore
import WebTerminal.Config.HashMemory
import WebTerminal.Json.PageBodies
import WebTerminal.Json.RoundTrip
import WebTerminal.Page.Controls
import WebTerminal.Page.Paste
import WebTerminal.Server.AccessControl
import WebTerminal.Server.BodyMemory
import WebTerminal.Server.Connections
import WebTerminal.Server.Cookie
import WebTerminal.Server.Keystrokes
import WebTerminal.Server.Lifetime
import WebTerminal.Server.LoginBody
import WebTerminal.Server.PostBack
import WebTerminal.Server.SessionLife
import WebTerminal.Server.SetupMode
import WebTerminal.Server.Strangers
import WebTerminal.Server.TerminalStream
import WebTerminal.Server.UpdateCheck
import WebTerminal.Server.Upload
import WebTerminal.Server.Versions
import WebTerminal.Store.Certs
import WebTerminal.Store.RoundTrip
import WebTerminal.Store.StoredStrings
import WebTerminal.Tools.Seeding
import WebTerminal.Usb.BaudRate
import WebTerminal.Usb.Calls
import WebTerminal.Usb.Hotplug
import WebTerminal.Wifi.HostLabel
import WebTerminal.Wifi.ScanExits
import WebTerminal.Wifi.ScanResults
import WebTerminal.Ws.Stream
import WebTerminal.Ws.WakeUp
