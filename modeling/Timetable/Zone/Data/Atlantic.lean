import Timetable.Zone.Entry

/-!
Time zones of the area Atlantic.
-/
namespace Timetable.Zone

def entriesAtlantic : List Entry := [
  ⟨"Atlantic/Azores", -6160, [-6872, -7200, -3600, 0, 3600],
    [
      "TUFHkG0UIvggW1URIucG2UR_kEW1USdHUW2UToP-G1UUVaiW2UVgjCG1UWNtwW2UXZ0QG1UYGWEW2UZRekG1",
      "Ua8pSW2UbJxyG1Ug1WkG2UgvtmG1UjoSGG2Ukfq0G1Ule6kG2UmXo8G1UnYOWG2UoS3wG1UpSgIG2UqK22G1",
      "UtCcYG2Uu3-IG1Uu_zMG2UvxyQG1UyoDGG2UzkCKG1U-dtkG2U_cASG1V0cmqG2V1U8aG1V2Q7eG2V3M6iG1",
      "V4Fo6G2V5E4qG1V6EhCG2V7MCYG1V7sVkG2V90-wG1V9yJoG2VAudyG1VBjMyG2VBxC003VCW6W02VCtByG1",
      "VDbL4G2VDmsU03VEShy02VEnTkG1VFTJCG2VFh8G03VGKg402VGfRsG1VHLHKG2VHZ6O03VICeC02VIXP-G1",
      "VJMU4G2VKIT8G1VLEUr02VMATv01VN6Sz02VO2S101VO-R502VPwQ901VQsPD02VRoOH01VSkNL02VTig301",
      "VUef702VVaeB01VWWdF02VXScJ01VYObN02VZKaR01VaGZV02VbCYZ01Vc8Xd02Vd6qL01Ve2pP02Ve-oT01",
      "VfwnX02Vgsmb01Vholf02Vikkj01Vjgjn02Vkcir01VlYhv02VmUgz01VnQg102VoOyl01VpKxp02VqGwt01",
      "VrCvx02Vs8u_01Vt4u302Vu0t701VuysB02WN0ysG3WNyxwG2WOuw-G3WPqw2G2WQmv6G3WRlBqG2WShAuG3",
      "WTd9yG2WUZ90G3WVV84G2WWR78G3WXN6CG2WYJ5GG3WZF4KG2WaB3OG3Wb72SG2Wc31WG3Wd1KEG2WdzJIG3",
      "WevIMG2WfrHQG3WgnGUG2WhFGuW3WhjFYG4Wi7y8G3WifEcG2WjbDgG3WkXCkG2WlTBoG3WmPAsG2WnNTaG3"],
    some ⟨-3600, 0, ⟨3, 5, 0, 0⟩, ⟨10, 5, 0, 3600⟩⟩⟩,
  ⟨"Atlantic/Bermuda", -15558, [-11958, -15558, -14400, -10800],
    [
      "USpAv60UTjqis1UUk6t60UVXBWs1Uqmntc2VBOgRW3VCqxpG2VDdj7W3VEnXFG2VFTNbW3VGhp1G2VHLLjW3",
      "VIZn9G2VLSMXW3VM3ZpG2VNMeJW3VNvEHG2VPEcRW3VPnCPG2VR8uDW3VRfAXG2VT0sLW3VTX8fG2VUuqTW3",
      "VVRQRG2VcR0dW3VdDmBG2W88BDW3W949PG2WA09LW3WAy7XG2WBu7TW3WCsPJG2WDm5bW3WEkNRG2WFgNNW3",
      "WGcLZG2WHYLVW3WIUJhG2WJQJdW3WKMHpG2WLIHlW3WMEFxG2WNAFtW3WO8XjG2WP2D_W3WQ0VrG2WQyVnW3",
      "WRuTzG2WSqTvW3WTmS5G2WUiS1W3WVeQDG2WWTVBW3WXWOLG2WYLTJW3WZQg7G2WaDRRW3WbIeFG2Wc5PZW3",
      "WdAcNG2Wd_hLW3Wf2aVG2WftfTW3WgwYdG2WhldbW3WiqqPG2WjdbjW3WkioXG2WlVZrW3WmamfG2WnPrdW3",
      "WoSknG2WpHplW3WqKivG2Wr9ntW3WsCh1G2Wt1l_W3Wu6ypG2Wuvk7W3Wv-wxG2WwniFW3Wxsv3G2Wyh-1W3",
      "WzktBG2W-Zy9W3W_crJG2X0RwHW3X1X75G2X2JuPW3X3P5DG2X4BsXW3X5H3LG2X5yvhW3"],
    some ⟨-14400, -10800, ⟨3, 2, 0, 7200⟩, ⟨11, 1, 0, 7200⟩⟩⟩,
  ⟨"Atlantic/Canary", -3696, [-3600, 0, 3600],
    [
      "Uc15pm0VKGVSW1WJJJO02WKC_gG1WL8-kG2WM4zoG1WN0ysG2WNyxwG1WOuw-G2WPqw2G1WQmv6G2WRlBqG1",
      "WShAuG2WTd9yG1WUZ90G2WVV84G1WWR78G2WXN6CG1WYJ5GG2WZF4KG1WaB3OG2Wb72SG1Wc31WG2Wd1KEG1",
      "WdzJIG2WevIMG1WfrHQG2WgnGUG1WhjFYG2WifEcG1WjbDgG2WkXCkG1WlTBoG2WmPAsG1WnNTaG2"],
    some ⟨0, 3600, ⟨3, 5, 0, 3600⟩, ⟨10, 5, 0, 7200⟩⟩⟩,
  ⟨"Atlantic/Cape_Verde", -5644, [-7200, -3600],
    ["UIvggW0VCbPmW1VIT7mG0WB5_T01"],
    none⟩,
  ⟨"Atlantic/Faroe", -1624, [0, 3600],
    [
      "UBRQHO0WL8-kG1WM4zoG0WN0ysG1WNyxwG0WOuw-G1WPqw2G0WQmv6G1WRlBqG0WShAuG1WTd9yG0WUZ90G1",
      "WVV84G0WWR78G1WXN6CG0WYJ5GG1WZF4KG0WaB3OG1Wb72SG0Wc31WG1Wd1KEG0WdzJIG1WevIMG0WfrHQG1",
      "WgnGUG0WhjFYG1WifEcG0WjbDgG1WkXCkG0WlTBoG1WmPAsG0WnNTaG1"],
    some ⟨0, 3600, ⟨3, 5, 0, 3600⟩, ⟨10, 5, 0, 7200⟩⟩⟩,
  ⟨"Atlantic/Madeira", -4056, [-3600, 0, 3600],
    [
      "UIvfoG0URItk01UR_jMG0USdGcG1UToP600UUVZqG1UVgiK00UWNt2G1UXY_Y00UYGVMG1UZRds00Ua8oaG1",
      "UbJx400Ug1Vs01Ugvsu00UjoRO01Ukfp800Ule5s01UmXnG00UnYNe01UoS3200UpSfQ01UqK1A00UtCbg01",
      "Uu3zQ00Uu_yU01UvxxY00UyoCO01UzkBS00U-dss01U_c9a00V0cly01V1U7i00V2Q6m01V3M5q00V4FnE01",
      "V5E3y00V6EgK01V7MBg00V7sUs01V90-200V9yIw01VAud400VBjM401VBxB7m2VCW5dm1VCtB400VDbKC01",
      "VDmrbm2VESh3m1VEnSs00VFTIK01VFh7Nm2VGKfBm1VGfQ-00VHLGS01VHZ5Vm2VICdJm1VIXP600VJMTC01",
      "VKISG00VLETym1VMAT0m0VN6S4m1VO2R8m0VO-QCm1VPwPGm0VQsOKm1VRoNOm0VSkMSm1VTifAm0VUeeEm1",
      "VVadIm0VWWcMm1VXSbQm0VYOaUm1VZKZYm0VaGYcm1VbCXgm0Vc8Wkm1Vd6pSm0Ve2oWm1Ve-nam0Vfwmem1",
      "Vgslim0Vhokmm1Vikjqm0Vjgium1Vkchym0VlYh0m1VmUg4m0VnQf8m1VoOxsm0VpKwwm1VqGv-m0VrCv2m1",
      "Vs8u6m0Vt4tAm1Vu0sEm0VuyrIm1WN3Fe02WNyx201WOuw602WPqvA01WQmuE02WRlAy01WShA002WTd9401",
      "WUZ8802WVV84G1WWR78G2WXN6CG1WYJ5GG2WZF4KG1WaB3OG2Wb72SG1Wc31WG2Wd1KEG1WdzJIG2WevIMG1",
      "WfrHQG2WgnGUG1WhjFYG2WifEcG1WjbDgG2WkXCkG1WlTBoG2WmPAsG1WnNTaG2"],
    some ⟨0, 3600, ⟨3, 5, 0, 3600⟩, ⟨10, 5, 0, 7200⟩⟩⟩,
  ⟨"Atlantic/South_Georgia", -8768, [-7200],
    ["TfXlt00"],
    none⟩,
  ⟨"Atlantic/Stanley", -13884, [-14400, -10800, -7200],
    [
      "UJH5yy0V3Jrh01V4DWCm0V5Bpp01V65UKm0V765b01V7_m6m0V8-3j01V9tkEm0VAs1r01VBliMm0VCj_z01",
      "VDDe4m0WP4Vv01WPqxom2WQySGW1WRgcGm2WSqQOW1WUg5km0WVQZP01WWY3sm0WXIXX01WYQ1-m0WZAVf01",
      "WaI06m0Wb2Tn01WcCHum0WcwRv01We4G0m0Weqjh01WfyE8m0Wgihp01WhqCGm0Wiafx01WjiAOm0WkSe301",
      "Wla8Wm0WmKcB01WnUQIm0WoEtz01WpMOQm0Wq6s501WrEMYm0Wr-qD01Wt6Kgm0WtsoL01Wu-Iom0WvkmT01",
      "WwsIhG0WxaShW1WymaTG0WzSQpW1W-eYbG0W_MibW1X0WWjG0X1EgjW1X2OUrG0X36erW1X4GSzG0X4-czW1",
      "X68R5G0X6sb5W1X82itG0X8mstW1X9wg_G0XAeq_W1XBof7G0XCWp7W1"],
    none⟩]

end Timetable.Zone
