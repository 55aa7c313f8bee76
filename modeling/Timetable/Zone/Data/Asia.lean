import Timetable.Zone.Entry

/-!
Time zones of the area Asia.
-/
namespace Timetable.Zone

def entriesAsia : List Entry := [
  ⟨"Asia/Almaty", 18468, [18000, 21600, 25200],
    [
      "Ug6NlS0Ure-ym1WL9tsW2WM6B8G1WN2B4W2WN-UMG1WOwUIW2WPsnaG1WQp6cW2WRl7R01WSh6V02WTd5Z01",
      "WUZ4d02WVV3h01WWR2l02WXN1p01WYJ0t02WZE_x01WaA-_02Wb6-301Wc2z702Wd1Fr01WevErG0WfU9LG1",
      "WfrD102WgnC501WhjB902WifAD01Wjb9H02WkX8L01WlT7P02WmP6T01WnNPB02WoSct01WpFNJ02WqKa_01",
      "Wr7LR02WsCZ701Ws_JZ02Wu6qv01WutHh02Wv-p101WwlFp02Wxsn901WyfXb02WzklH01W-XVj02W_cjP01",
      "X0PTr02X1W_B01XbuCOW0"],
    none⟩,
  ⟨"Asia/Amman", 8624, [7200, 10800],
    [
      "UsezRG0W6SddW1W73AjG0W893TW1W8xTxG0WA1MhW1WApn9G0WBv-_W1WCsdNG0WDoIDW1WEaihG0WFgGLW1",
      "WGSgpG0WShTLW1WTdmdG0WUalrW1WVWk1G0WWSjzW1WXOi9G0WYKi5W1WZIzxG0WaPBnW1WbAy3G0WcDszW1",
      "Wd2wBG0We2tFW1WeuafG0WfvBvW1WgosRG0WhksNW1WigqZG0WjcqVW1WkUBNG0WlX6HW1WmMANW0WnP4PW1",
      "WoGS9W0WpH2XW1Wq8QHW0Wr90fW1Ws0OPW0WtUfDW1WtwgBW0WuudpW1WvqxzW0WwmbxW1Wxiw5W0Wyev9W1",
      "WzauDW0W-WtHW1W_c4zW0X0OrPW1X1RlRW0X2J7BW1X3F6FW0X4B5JW1X5GI_W0X633RW1X78H7W0X7x1ZW1",
      "X92YvW0X9o_hW1XAwX1W0XBgzpW1XCoV9W0XDbFbW1XEgTHW0XFTDjW1XIirvG0XJD9zW1XKKhJW0XL585W1",
      "XMCfRW0XM_PtW1XO4dZW0XOtN_W1XPybhW0XQlM7W1XRqZpW0XSdKFW1XTiXxW0XUVINW1XVcpjW0XWNGVW1",
      "XXUnrW0XY5__W1"],
    none⟩,
  ⟨"Asia/Anadyr", 42596, [43200, 46800, 50400, 39600],
    [
      "Ug6HsS0Ureup01WL9nim2WM64-W1WN-P4m0WOwP101WPsiIm0WQp1L01WRl29W0WSh1DW1WTd0HW0WUY_LW1",
      "WVU-PW0WWQzTW1WXMyXW0WYIxbW1WZEwfW0WaAvjW1Wb6unW0Wc2trW1Wd1AZW0Wev9Zm3WfU43m0Wfr7lW1",
      "Wgn6pW0Whj5tW1Wif4xW0Wjb3_W1WkX33W0WlT27W1WmP1BW0WnNJvW1WoSXbW0WpFI1W1WqKVjW0Wr7G9W1",
      "WsCTrW0Ws_EHW1Wu6ldW0WutCPW1Wv-jlW0WwlAXW1WxshtW0WyfSJW1Wzkf_W0W-XQRW1W_ce7W0X0POZW1",
      "X1WvvW0X2HMhW1X3Ou1W0X49KpW1X5Gs9W0X61IxW1X78qHW0X7xajW1X90oPW0X9pYrW1XAumXW0XCp3Bm3",
      "XDZVzm0"],
    none⟩,
  ⟨"Asia/Aqtau", 12064, [14400, 18000, 21600],
    [
      "Ug6PJW0Ure_r01WM6Cum2WN-VEW1WOwVAm2WPsoSW1WQp7Um2WRl8JG1WSh7NG2WTd6RG1WUZ5VG2WVV4ZG1",
      "WWR3dG2WXN2hG1WYJ1lG2WZF0pG1WaA_tG2Wb6-xG1Wc2z_G2Wd1GjG1WevFjW0WfUADW1WfrDvG2WgnCzG1",
      "WhjC1G2WifB5G1WjbA9G2WkX9DG0WlT99W1WmP8DW0WnNQxW1WoSedW0WpFP3W1WqKclW0Wr7NBW1WsCatW0",
      "Ws_LJW1Wu6sfW0WutJRW1Wv-qnW0WwlHZW1WxsovW0WyfZLW1Wzkn1W0W-XXTW1W_cl9W0X0PVbW1"],
    none⟩,
  ⟨"Asia/Aqtobe", 13720, [14400, 18000, 21600],
    [
      "Ug6Ove0Ure_r01WL9ukm2WN-VEW1WOwVAm2WPsoSW1WQp7Um2WRl8JG1WSh7NG2WTd6RG1WUZ5VG2WVV4ZG1",
      "WWR3dG2WXN2hG1WYJ1lG2WZF0pG1WaA_tG2Wb6-xG1Wc2z_G2Wd1GjG1WevFjW0WfUADW1WfrDvG2WgnCzG1",
      "WhjC1G2WifB5G1WjbA9G2WkX9DG1WlT8HG2WmP7LG1WnNQ3G2WoSdlG1WpFOBG2WqKbtG1Wr7MJG2WsCZ_G1",
      "Ws_KRG2Wu6rnG1WutIZG2Wv-pvG1WwlGhG2Wxso1G1WyfYTG2Wzkm9G1W-XWbG2W_ckHG1X0PUjG2X1X03G1"],
    none⟩,
  ⟨"Asia/Ashgabat", 14012, [14400, 18000, 21600],
    [
      "Ug6Or40Ure_r01WL9ukm2WM6C0W1WN2Bym2WN-VEW1WOwVAm2WPsoSW1WQp7Um2WRl8JG1WSh7NG2WTd6RG1",
      "WUZ5VG2WVV4ZG1WWR3dG2WXN2hG1WYJ1lG2WZF0pG1WaA_tG2Wb6-xG1Wc2z_G2Wd1GjG1WevFjW0WfUADW1"],
    none⟩,
  ⟨"Asia/Atyrau", 12464, [10800, 18000, 21600, 14400],
    [
      "Ug6PDG0Urf0jG1WM6Cum2WN-VEW1WOwVAm2WPsoSW1WQp7Um2WRl8JG1WSh7NG2WTd6RG1WUZ5VG2WVV4ZG1",
      "WWR3dG2WXN2hG1WYJ1lG2WZF0pG1WaA_tG2Wb6-xG1Wc2z_G2Wd1GjG1WevFjW3WfUADW1WfrDvG2WgnCzG1",
      "WhjC1G2WifB5G1WjbA9G2WkX9DG1WlT8HG2WmP7LG1WnNQ3G2WoSdlG1WpFOBG2WqKbtG1Wr7MJG2WsCZ_G1",
      "Wu6sfW3WutJRW1Wv-qnW3WwlHZW1WxsovW3WyfZLW1Wzkn1W3W-XXTW1W_cl9W3X0PVbW1"],
    none⟩,
  ⟨"Asia/Baghdad", 10660, [10656, 10800, 14400],
    [
      "TfXh7S0UUC3pW1WNC6XG2WN-W_01WOwBrG2WPsqD01WQp9FG2WRlSX01WShSTG2WTd7JW1WUZ6NW2WVV5RW1",
      "WWR4VW2WXN3ZW1WYJ2dW2WZF1hW1WaB0lW2Wb6_pW1Wc2-tW2Wd1HbW1WdzdW02Wevxg01WfsFq02WgoZ-01",
      "WhkZ202WigtC01WjcsG02WkZAQ01WlV9U02WmRTe01WnNno02WoK5y01WpG5002WqCPA01Wr8OE02Ws4iO01",
      "Wt0hS02Wty_c01WuvJm02Wvrdw01Wwnc-02Wxjx801WyfwC02WzcEM01W-YDQ02W_UXa01X0Qrk02X1N9u01",
      "X2J8y02X3FT601X4BSA02X57mK01X63lO02X703Y01"],
    none⟩,
  ⟨"Asia/Baku", 11964, [10800, 14400, 18000],
    [
      "Ug6PL40VdsWnG1WL9vd02WM6Cum1WN2Cr02WN-W6m1WOwW302WPspKm1WQp8N02WRl9BW1WSh8FW2WTd7JW1",
      "WUZ6NW2WVV5RW1WWR4VW2WXN3ZW1WYJ2dW2WZF1hW1WaB0lW2Wb6_pW1Wc2-tW2Wd1HbW1WevGbm0WfrFfm1",
      "WnNTaG2WoShGG1WpFQq02WqKeW01Wr7Oy02WsCce01Ws_N402Wu6uQ01WutLC02Wv-sY01WwlJK02Wxsqg01",
      "Wyfb602Wzkoo01W-XZE02W_cmw01X0PXM02X1X2i01X2HVU02X3P0q01X49Tc02X5G-y01X61Rk02X78z401",
      "X7xjW02X90xC01X9phe02XAuvK01XBhfm02XCpB601XDZdu02XEh9E01XFRc002XGZ7M01XHLto02XIR5U01",
      "XJDrw02XKJ3c01XL5q202XMB1k01"],
    none⟩,
  ⟨"Asia/Bangkok", 24124, [25200],
    ["UYQcV40"],
    none⟩,
  ⟨"Asia/Barnaul", 20100, [21600, 25200, 28800],
    [
      "UXrNty0Ure-4W1WL9s-G2WM6AG01WN2ACG2WN-TU01WOwTQG2WPsmi01WQp5kG2WRl6Ym1WSh5cm2WTd4gm1",
      "WUZ3km2WVV2om1WWR1sm2WXN0wm1WYI_-m2WZE_2m1WaA-6m2Wb6zAm1Wc2yEm2Wd1Eym1WevDz00WfU8T01",
      "WfrC8m2WgnBCm1WhjAGm2Wif9Km1Wjb8Om2WkX7Sm1WlT6Wm2Wlnqo01WmP6T00WnNPB01WoSct00WpFNJ01",
      "WqKa_00Wr7LR01WsCZ700Ws_JZ01Wu6qv00WutHh01Wv-p100WwlFp01Wxsn900WyfXb01WzklH00W-XVj01",
      "W_cjP00X0PTr01X1W_B00X2HRz01X3OzJ00X49Q501X5GxR00X61OD01X78vZ00X7xf_01X90th00X9pe701",
      "XAurp00XBhcF01XCp7b00XDZaN01XKI_Cm0XMzkf01"],
    none⟩,
  ⟨"Asia/Beirut", 8520, [7200, 10800],
    [
      "TMjiAu0UYPMFW1UZUu9G0UaJe1W1UbFxJG0Uc9IVW1Ud9t_G0UeAVFW1Uewx9G0VeAeNW1Vez2rG0Vg2xbW1",
      "VgrM3G0VhxEpW1VijfHG0Vjpt7W1VkcHbG0VliALW1VmUapG0W4fbvW1W5AtVG0W6GmFW1W73AjG0W893TW1",
      "W8xTxG0WA1MhW1WApn9G0WBv-_W1WCiPTG0WDoIDW1WEaihG0WFgGLW1WGSgpG0WQz2xW1WRqPpG0WSrM9W1",
      "WTij1G0WUjfNW1WVb0FG0WWbybW1WXTJTG0WYeopW1WZLxnG0WaPrzW1WbEE_G0WcFBLW1Wd6YDG0We7UZW1",
      "We-rRG0Wg06tW1WgpWdG0WhjCvW1WifB5G0WjbB1W1WkX9DG0WlT99W1WmP7LG0WnNQxW1WoJP7G0WpFP3W1",
      "WqBNFG0Wr7NBW1Ws3LNG0Ws_LJW1"],
    some ⟨7200, 10800, ⟨3, 5, 0, 0⟩, ⟨10, 5, 0, 0⟩⟩⟩,
  ⟨"Asia/Bishkek", 17904, [18000, 21600, 25200],
    [
      "Ug6NuG0Ure-ym1WL9tsW2WM6B8G1WN2B4W2WN-UMG1WOwUIW2WPsnaG1WQp6cW2WRl7R01WSh6V02WTd5Z01",
      "WUZ4d02WVV3h01WWR2l02WXN1p01WYJ0t02WZE_x01WaA-_02Wb6-301Wc2z702Wd1Fr01WelgF00WfvpSm1",
      "WgnAKW0Whnnam1Wif8SW0Wjflim1WkX6aW0WlXjqm1WmP4iW0WnPhym1WoJMUW0WpFOdO1WqKbR80Wr7MlO1",
      "WsCZZ80Ws_KtO1Wu6rL80WutI_O1Wv-pT80WwlH7O1Wxsnb80WyfYvO1Wzklj80W-XX1O1W_cjr80X0PV9O1",
      "X1W_d80X2HTHO1"],
    none⟩,
  ⟨"Asia/Chita", 27232, [28800, 32400, 36000],
    [
      "UXs_cW0UreyK01WL9rDm2WM68VW1WN28Rm2WN-RjW1WOwRfm2WPskxW1WQp3zm2WRl4oG1WSh3sG2WTd2wG1",
      "WUZ1-G2WVV12G1WWR06G2WXM_AG1WYI-EG2WZEzIG1WaAyMG2Wb6xQG1Wc2wUG2Wd1DCG1WevCCW0WfU6iW1",
      "WfrAOG2Wgn9SG1Whj8WG2Wif7aG1Wjb6eG2WkX5iG1WlT4mG2WmP3qG1WnNMYG2WoSaEG1WpFKgG2WqKYMG1",
      "Wr7IoG2WsCWUG1Ws_GwG2Wu6oGG1WutF2G2Wv-mOG1WwlDAG2WxskWG1WyfUyG2WzkieG1W-XT4G2W_cgmG1",
      "X0PRCG2X1WyYG1X2HPKG2X3OwgG1X49NSG2X5GuoG1X61LaG2X78swG1X7xdMG2X90r2G1X9pbUG2XAupAG1",
      "XBhZcG2XCp4yG1XDZXkG2XKIya00XMziuW1"],
    none⟩,
  ⟨"Asia/Colombo", 19164, [19172, 19800, 21600, 23400],
    ["TMjfaa0U7dRqS1VBMXme2VCbIkW3VITO0u1WnfW0e3WoSG0W2X4F-ee1"],
    none⟩,
  ⟨"Asia/Damascus", 8712, [7200, 10800],
    [
      "UXygju0UYWI-01UZNfrm0UaOH601UbFdzm0UcGFE01Ud7c5m0Ue8DM01Uf1ttm0VnZr801VoMvnm0VpSoY01",
      "VqEtvm0VrLQs01Vs7rJm0VtDk401Vt_pRm0Vv3je01VvuRlm0Vw-KW01Vxmkzm0Vysyq01VzfNHm0V-lG201",
      "V_XgVm0W0dZG01W1Pzjm0W2VsU01W3IGxm0W4OUo01W5AvFm0W6Go001W73CTm0W895E01W8xVhm0WA1OS01",
      "WApovm0WBw0m01WCiRDm0WDoJ-01WEQrdm0WFgdC01WGJ8rm0WOzCK01WPssrm0WQrqe01WRlV9m0WULIC01",
      "WVYkLm0WWHte01WXYHdm0WYF7G01WZQvxm0WaCh-01Wb9KLm0Wc5KI01Wd1ITm0WdzblW1Wevv1G0WfuXjW1",
      "WgoXLG0WhiYjW1Wier_G0WjcqVW1WkZ7nG0WlV7jW1WmRQ_G0WnNm1W1WoK3JG0WpFk9W1WqCMXG0Wr7iHW1",
      "Ws4flG0Wt0fhW1WtyyzG0WuvH_W1WvrbHG0WwnbDW1WxjuVG0WyfuRW1WzcBjG0W-YBfW1W_UUxG0X0QpzW1",
      "X1N7FG0X2J7BW1X3FQTG0X4BQPW1X54lrG0X633RW1X7AZvG0X7zLDW1X92t7G0X9o_hW1XAwW9G0XBjHTW1",
      "XCoUHG0XDbFbW1XEgSPG0XFTDjW1XGYQXG0XHLBrW1XIQOfG0XJD9zW1XKKgRG0XL585W1XMCeZG0XMz6DW1",
      "XO4chG0XOtN_W1XPyapG0XQlM7W1XRqYxG0XSdKFW1XTiX3G0XUVINW1XVcorG0XWNGVW1XXUmzG0XYFEdW1"],
    none⟩,
  ⟨"Asia/Dhaka", 21700, [21200, 23400, 19800, 21600, 25200],
    ["TfXeQy0VAsuQm1VC1N4O2VCbJAe1VTgDAO3XAEyGG4XBFDYG3"],
    none⟩,
  ⟨"Asia/Dili", 30140, [28800, 32400],
    ["UIvXu00VBcJBm1WBwZ1m0Wvmva01"],
    none⟩,
  ⟨"Asia/Dubai", 13272, [14400],
    ["UXyfce0"],
    none⟩,
  ⟨"Asia/Dushanbe", 16512, [18000, 21600, 25200],
    [
      "Ug6OE00Ure-ym1WL9tsW2WM6B8G1WN2B4W2WN-UMG1WOwUIW2WPsnaG1WQp6cW2WRl7R01WSh6V02WTd5Z01",
      "WUZ4d02WVV3h01WWR2l02WXN1p01WYJ0t02WZE_x01WaA-_02Wb6-301Wc2z702Wd1Fr01WeoezG0"],
    none⟩,
  ⟨"Asia/Famagusta", 8148, [7200, 10800],
    [
      "UbTnui0W9xQ_W1WAtPBG0WB-cJW1WCliPG0WDf3bW1WEYk7G0WFX1jW1WGTK_G0WHO_rW1WIK-1G0WJJHdW1",
      "WKCy9G0WL8y5W1WM4wHG0WN0wDW1WNyuPG0WOuuLW1WPqsXG0WQmsTW1WRl8JG0WSh8FW1WTd6RG0WUZ6NW1",
      "WVV4ZG0WWR4VW1WXN2hG0WYJ2dW1WZF0pG0WaB0lW1Wb6-xG0Wc2-tW1Wd1GjG0WdzGfW1WevErG0WfrEnW1",
      "WgnCzG0WhjCvW1WifB5G0WjbB1W1WkX9DG0WlT99W1WmP7LG0WnNQxW1WoJP7G0WpFP3W1WqBNFG0Wr7NBW1",
      "WsCdWG0Ws_NyG1Wu6vIG0WutM4G1Wv-tQG0WwlKCG1WxsrYG0Wyfb-G1WzkpgG0W-Xa6G1W_cnoG0X0PYEG1",
      "X1X3aG0X2HWMG1X3P1iG0X49UUG1X5G_qG0X61ScG1X78zyG0X7xkOG1X90y4G0X9piWG1XAuwCG0XBhgeG1",
      "XCpB-G0XDZemG1XEhA6G0XFRcuG1XGZ8EG0XHLugG1XIR6MG0XJDsoG1XKJ4UG0XL5qwG1XMB2cG0XMzp2G1",
      "XPzIWG0"],
    some ⟨7200, 10800, ⟨3, 5, 0, 10800⟩, ⟨10, 5, 0, 14400⟩⟩⟩,
  ⟨"Asia/Gaza", 8272, [7200, 10800],
    [
      "TzlKgm0V8MSy01V8-gO00V9E9o01VCvUk00VDhFu01VEnny00VFZuC01VGgQG00VHX7q01VIYjU00VJPR201",
      "VKR0i00VeDcDW1Vez2rG0Vg2xbW1VgrM3G0VhxFhm1VijMq00Vjpt_m1Vkb_800VliBDm1VmUIM00VnaURm1",
      "VoMba00VpSnfm1VqEuo00VrLPzm1Vs7X600VtDjBm1Vt_qK00Vv60Pm1VvuSe00Vw-Jdm1Vx9q9G0W8V8lW1",
      "W8_R3G0W9zkfW1WAfZFG0WJwVnW1WK8LjW0WQ-iPW1WRZcvW0WSllZW1WTTtpG0WUpFzW1WVO9bG0WWWh5W1",
      "WXIRNG0WYNfxW1WZ85rG0WaMZ1W1Wb03zG0Wc2-tW1WcrkRG0Wdwy_W1Wem0DG0WfrEnW1WggH_G0WhksNW1",
      "WiYG7G0WjcqVW1WkNwbG0WlUodW1WmICNG0WnP4PW1WoGS9W0WpH2XW1Wq8QHW0Wr90fW1Ws0OPW0Wt5c5W1",
      "Wu1aHG0Wu_ttW1Wvxs3G0Wwtr_W1WxpqBG0Wylq7W1WzhoJG0W-doFW1W_ZmRG0X0VmNW1X1N87W0X2NkVW1",
      "X3GRVm0X4BQPW1X54lrG0X63jdW1X6w6zm0X7x1ZW1X8jn7G0X9o_hW1XAe3nW0XBhIwS1XCORtG0XDbFcS1",
      "XEDS9G0XFTDjW1XGMv7W0XHLBrW1XIHA1G0XJD9zW1XKIMnG0XL5TBW1XMALnW0XMzSBm1XO4yfW0XOrQJm1",
      "XPywnW0XQjORm1XRquvW0XSdKFW1XTis9G0XUVdTW1XVar9W0XWNbbW1XXUnrW0XYFupW1XZN5xm0XaJ5u01",
      "XbF43m0Xc8mM01Xd72Bm0Xd-Qq01Xe_0Jm0Xfnne01Xgs-Rm0Xhflm01XinGDm0XjXju01XkfELm0XlPi001",
      "XmXCTm0XnJzo01XoPAbm0XpBxw01XqH8jm0Xr3w201XsBQVm0XsxuA01Xu3Odm0XupsI01XvxMlm0XwhqQ01",
      "XxpKtm0Xyc6C01Xze_Lm0X-U4K01X_Ufpm0Y0M2S01Y1I0dm0Y2E0a01Y37h5m0Y45-i01Y4x1vm0Y5BCO01",
      "Y5DV9m0Y60GU01Y6miNm0Y6-ZC01Y75THm0Y7uEc01Y8cMrm0Y8qDg01Y8zRPm0Y9mCk01YAPjfm0YAfu801",
      "YArPXm0YBeAs01YCFO7m0YCTEy01YClhJm0YDW8-01YE52bm0YEIvQ01YEdfRm0YFO7601YFuPPm0YG8Zu01",
      "YGVdZm0YHIOu01YHk3tm0YHxwi01YINbhm0YJAN001YJXQhm0YJnbA01YKFZpm0YL2L801YLN59m0YLax-01",
      "YM9rbm0YMwJG01YNCldm0YNQcS01YO1pjm0YOoHO01YP06Rm0YPGGw01YPvnrm0YQiZA01YQrmvm0YR3dk01",
      "YRnlzm0YSaXI01YSf7jm0YSvIC01YTfk5m0YUSVQ01YUUoBm0YUkyg01YVXiDm0YWYJU01YXRz_m0YYNzy01",
      "YZJy7m0YaBKm01YbBwFm0Yc0_E01Yd3uNm0Ydsfi01YexsVm0Yfkdq01Ygs8Hm0Yhcby01Yik6Pm0YjUa401",
      "Ykc4Xm0YlMYC01YmU2fm0YnGp-01YoM0nm0Yp8o601YqD-vm0Yr0mE01Ys8Ghm0YsukM01Yu0Epm0YumiU01",
      "YvrvHm0Ywg-G01YxhZlm0YyYyO01YzXEDm0Y-QwW01Y_Kb1m0Z0Iue01Z1AFVm0Z1O6K01Z1QP5m0Z2Asm01",
      "Z2_vzm0Z3Dmo01Z3INDm0Z42qu01Z4pGnm0Z53RG01Z5ALLm0Z5z6g01Z6exFm0Z6so401Z72JTm0Z7r4o01",
      "Z8SI3m0Z8iSY01Z8wHbm0Z9j2w01ZAHyXm0ZAY7001ZAqZNm0ZBb1201ZC7c_m0ZCLTq01ZCiXVm0ZDS_A01",
      "ZDwzpm0ZEB8I01ZEaVdm0ZFNGy01ZFmeHm0ZF-V601ZGSTlm0ZHFF401ZHcIlm0ZHq9a01ZIKRtm0ZJ7DC01",
      "ZJPfZm0ZJfq201ZKCP_m0ZK_BK01ZLFK1m0ZLTAs01ZM6hnm0ZMt9S01ZN2grm0ZNIrK01ZN-fvm0ZOl7a01",
      "ZOuLJm0ZP8Vo01ZPse1m0ZQfPM01ZQj_nm0ZQxsc01ZRkc9m0"],
    some ⟨7200, 10800, ⟨3, 4, 4, 180000⟩, ⟨10, 4, 4, 180000⟩⟩⟩,
  ⟨"Asia/Hebron", 8423, [7200, 10800],
    [
      "TzlKeP0V8MSy01V8-gO00V9E9o01VCvUk00VDhFu01VEnny00VFZuC01VGgQG00VHX7q01VIYjU00VJPR201",
      "VKR0i00VeDcDW1Vez2rG0Vg2xbW1VgrM3G0VhxFhm1VijMq00Vjpt_m1Vkb_800VliBDm1VmUIM00VnaURm1",
      "VoMba00VpSnfm1VqEuo00VrLPzm1Vs7X600VtDjBm1Vt_qK00Vv60Pm1VvuSe00Vw-Jdm1Vx9q9G0W8V8lW1",
      "W8_R3G0W9zkfW1WAfZFG0WJwVnW1WK8LjW0WQ-iPW1WRZcvW0WSllZW1WTTtpG0WUpFzW1WVO9bG0WWWh5W1",
      "WXIRNG0WYNfxW1WZ85rG0WaMZ1W1Wb03zG0Wc2-tW1WcrkRG0Wdwy_W1Wem0DG0WfrEnW1WggH_G0WhksNW1",
      "WiYG7G0WjcqVW1WkNwbG0WlUodW1WmICNG0WnP4PW1WoGS9W0WpH2XW1Wq8QHW0Wr90fW1Ws0OPW0Wt5c5W1",
      "Wu1aHG0Wu_ttW1Wvxs3G0Wwtr_W1WxpqBG0Wylq7W1WzhoJG0W-doFW1W_ZmRG0X0VmNW1X1N87W0X2NkVW1",
      "X3GRVm0X4BQPW1X54lrG0X63jdW1X6w6zm0X7x1ZW1X8kmPG0X9o_hW1XAe3nW0XBgzpW1XCORtG0XDbFcS1",
      "XEDS9G0XEN0lW1XEXDnG0XFTDjW1XGMv7W0XHLBrW1XIHA1G0XJD9zW1XKIMnG0XL5TBW1XMALnW0XMzSBm1",
      "XO4yfW0XOrQJm1XPywnW0XQjORm1XRquvW0XSdKFW1XTis9G0XUVdTW1XVar9W0XWNbbW1XXUnrW0XYFupW1",
      "XZN5xm0XaJ5u01XbF43m0Xc8mM01Xd72Bm0Xd-Qq01Xe_0Jm0Xfnne01Xgs-Rm0Xhflm01XinGDm0XjXju01",
      "XkfELm0XlPi001XmXCTm0XnJzo01XoPAbm0XpBxw01XqH8jm0Xr3w201XsBQVm0XsxuA01Xu3Odm0XupsI01",
      "XvxMlm0XwhqQ01XxpKtm0Xyc6C01Xze_Lm0X-U4K01X_Ufpm0Y0M2S01Y1I0dm0Y2E0a01Y37h5m0Y45-i01",
      "Y4x1vm0Y5BCO01Y5DV9m0Y60GU01Y6miNm0Y6-ZC01Y75THm0Y7uEc01Y8cMrm0Y8qDg01Y8zRPm0Y9mCk01",
      "YAPjfm0YAfu801YArPXm0YBeAs01YCFO7m0YCTEy01YClhJm0YDW8-01YE52bm0YEIvQ01YEdfRm0YFO7601",
      "YFuPPm0YG8Zu01YGVdZm0YHIOu01YHk3tm0YHxwi01YINbhm0YJAN001YJXQhm0YJnbA01YKFZpm0YL2L801",
      "YLN59m0YLax-01YM9rbm0YMwJG01YNCldm0YNQcS01YO1pjm0YOoHO01YP06Rm0YPGGw01YPvnrm0YQiZA01",
      "YQrmvm0YR3dk01YRnlzm0YSaXI01YSf7jm0YSvIC01YTfk5m0YUSVQ01YUUoBm0YUkyg01YVXiDm0YWYJU01",
      "YXRz_m0YYNzy01YZJy7m0YaBKm01YbBwFm0Yc0_E01Yd3uNm0Ydsfi01YexsVm0Yfkdq01Ygs8Hm0Yhcby01",
      "Yik6Pm0YjUa401Ykc4Xm0YlMYC01YmU2fm0YnGp-01YoM0nm0Yp8o601YqD-vm0Yr0mE01Ys8Ghm0YsukM01",
      "Yu0Epm0YumiU01YvrvHm0Ywg-G01YxhZlm0YyYyO01YzXEDm0Y-QwW01Y_Kb1m0Z0Iue01Z1AFVm0Z1O6K01",
      "Z1QP5m0Z2Asm01Z2_vzm0Z3Dmo01Z3INDm0Z42qu01Z4pGnm0Z53RG01Z5ALLm0Z5z6g01Z6exFm0Z6so401",
      "Z72JTm0Z7r4o01Z8SI3m0Z8iSY01Z8wHbm0Z9j2w01ZAHyXm0ZAY7001ZAqZNm0ZBb1201ZC7c_m0ZCLTq01",
      "ZCiXVm0ZDS_A01ZDwzpm0ZEB8I01ZEaVdm0ZFNGy01ZFmeHm0ZF-V601ZGSTlm0ZHFF401ZHcIlm0ZHq9a01",
      "ZIKRtm0ZJ7DC01ZJPfZm0ZJfq201ZKCP_m0ZK_BK01ZLFK1m0ZLTAs01ZM6hnm0ZMt9S01ZN2grm0ZNIrK01",
      "ZN-fvm0ZOl7a01ZOuLJm0ZP8Vo01ZPse1m0ZQfPM01ZQj_nm0ZQxsc01ZRkc9m0"],
    some ⟨7200, 10800, ⟨3, 4, 4, 180000⟩, ⟨10, 4, 4, 180000⟩⟩⟩,
  ⟨"Asia/Ho_Chi_Minh", 25590, [25200, 28800, 32400],
    ["UHeoiA0VDDUQ01VHMSvm2VIEpxm0VLChiG1VajlAG0VjBvW01WAFSS00"],
    none⟩,
  ⟨"Asia/Hong_Kong", 27402, [28800, 32400, 30600],
    [
      "U5QMEG0VAJJ4m1VAsvCm2VBIt5u1VIeDwG0VJQzU01VKarYu0VLGh0u1VMSpgu0VNFa6u1VOBZAu0VO-Jcu1",
      "VQ3XIu0VQsHku1VRxVQu0VSkFsu1VTpTYu0VUeXeu1VVjlKu0VWWVmu1VXbiae0VYJsau1VZTgie0VaBqiu1",
      "VbNyUe0Vc3oqu1VdFwce0Vd-4cu1Vf7uke0Vfs2ku1Vg_sse0Vhk0su1Vitq-e0Vjb--u1Vko6me0VlTz6u1",
      "Vmg4ue0VnLxEu1VoY30e0VpGD0u1VqQ18e0Vr8B8u1VsH_Ge0Vt9Nuu1Vu5M4e0Vv1M0u1VvzKCe0VwvK8u1",
      "Vxtb-e0Vypbwu1Vzla6e0V-ha2u1V_dYEe0W0ZYAu1W1VWMe0W2RWIu1W3NUUe0W4JUQu1W5HmGe0W6DmCu1",
      "W79kOe0W7Wpqu1W91iWe0W9ziSu1WAvgee0WBrgau1WCneme0WHcpau1WIRsoe0"],
    none⟩,
  ⟨"Asia/Hovd", 21996, [21600, 25200, 28800],
    [
      "U6q_oK0WF2-gW1WOwTQG2WPsmi01WQp5kG2WRl3w01WSh3sG2WTd2201WUZ1-G2WVV0A01WWR06G2WXM-I01",
      "WYI-EG2WZEyQ01WaAyMG2Wb6wY01Wc2wUG2Wd1CK01WdzCGG2WevAS01WfrAOG2Wgn8a01Whj8WG2Wif6i01",
      "Wjb6eG2WkX4q01WlT4mG2WmP2y01WnNMYG2WoJKk01WpFKgG2WqBIs01Wr7IoG2Ws3G-01WwwS6m2WxjBgW1",
      "WyfBcm2Wzb9oW1W-X9km2W_T7wW1X0P7sm2X1L62W1X2H5-m2X3D4AW1X4946m2X57LyW1XL5QYm2XM1M-01",
      "XMzOgm2XNvL601"],
    none⟩,
  ⟨"Asia/Irkutsk", 25025, [25200, 28800, 32400],
    [
      "UY4W-_0UrezCG1WL9s602WM69Nm1WN29K02WN-Sbm1WOwSY02WPslpm1WQp4s02WRl5gW1WSh4kW2WTd3oW1",
      "WUZ2sW2WVV1wW1WWR0-W2WXN02W1WYI_6W2WZE-AW1WaAzEW2Wb6yIW1Wc2xMW2Wd1E4W1WevD4m0WfU7am1",
      "WfrBGW2WgnAKW1Whj9OW2Wif8SW1Wjb7WW2WkX6aW1WlT5eW2WmP4iW1WnNNQW2WoSb6W1WpFLYW2WqKZEW1",
      "Wr7JgW2WsCXMW1Ws_HoW2Wu6p8W1WutFwW2Wv-nGW1WwlE2W2WxslOW1WyfVqW2WzkjWW1W-XTyW2W_cheW1",
      "X0PS4W2X1WzQW1X2HQCW2X3OxYW1X49OKW2X5GvgW1X61MSW2X78toW1X7xeEW2X90rwW1X9pcMW2XAuq2W1",
      "XBhaUW2XCp5qW1XDZYcW2XKIzSG1"],
    none⟩,
  ⟨"Asia/Jakarta", 25632, [26400, 27000, 32400, 28800, 25200],
    ["UfU8NW0Uw5jvW1VBluE82VILkvm1VNFCO83VQ_oO01VqjRw84"],
    none⟩,
  ⟨"Asia/Jayapura", 33768, [32400, 34200],
    ["Uw5i6O0VGMBdm1VqjQ9e0"],
    none⟩,
  ⟨"Asia/Jerusalem", 8454, [8440, 7200, 10800, 14400],
    [
      "TMjiBw0UUC4M81V8MSy02V8-gO01V9E9o02VCvUk01VDhFu02VEnny01VFZuC02VGgQG01VHX7q02VIYjU01",
      "VJPR202VKR0i01VNMZ203VNtrW02VOByE01VP7cC02VQ4FS01VQwz002VRj3G01VSkJq02VTu8q01VUjCw02",
      "VVfB-01VWYtO02VXLdq01VYlcQ02VZDby01VadaY02Vb5a401VcTF002Vd4TA01Ve9gs02Vew7e01W8V8lW2",
      "W8_R3G1W9zkfW2WAfZFG1WJwVnW2WK8LjW1WQ-iPW2WRZcvW1WSllZW2WTTtpG1WUpFzW2WVO9bG1WWWh5W2",
      "WXIRNG1WYNfxW2WZ85rG1WaMZ1W2Wb03zG1Wc2-tW2WcrkRG1Wdwy_W2Wem0DG1WfrEnW2WggH_G1WhksNW2",
      "WiYG7G1WjcqVW2WkNwbG1WlUodW2WmICNG1WnI9RW2WoF6vG1WpCRDW2Wq6lxG1Wr4PLW2WryQPG1Wt10Y02",
      "Wtpm5m1Wuzb-02WvtFdW1WwqErm2WxhbjW1Wyew1m2WzeB9W1W-Wu9m2W_V9_W1X0SpPm2X1KAHW1X2J8y02",
      "X3I4zm1X4B7402X57lRm1X635C02X6x6Fm1X7x3K02X8v_Lm1X9p1S02XAlfpm1XBg_a02XCZ0dm1XDbHM02",
      "XEXvjm1XFTFU02XGNaBm1XHLDc02"],
    some ⟨7200, 10800, ⟨3, 4, 4, 93600⟩, ⟨10, 5, 0, 7200⟩⟩⟩,
  ⟨"Asia/Kabul", 16608, [14400, 16200],
    ["TfXfgW0VG-TT01"],
    none⟩,
  ⟨"Asia/Kamchatka", 38076, [39600, 43200, 46800],
    [
      "UdKfR40UrevhG1WL9ob02WM65sm1WN25p02WN-P4m1WOwP102WPsiIm1WQp1L02WRl29W1WSh1DW2WTd0HW1",
      "WUY_LW2WVU-PW1WWQzTW2WXMyXW1WYIxbW2WZEwfW1WaAvjW2Wb6unW1Wc2trW2Wd1AZW1Wev9Zm0WfU43m1",
      "Wfr7lW2Wgn6pW1Whj5tW2Wif4xW1Wjb3_W2WkX33W1WlT27W2WmP1BW1WnNJvW2WoSXbW1WpFI1W2WqKVjW1",
      "Wr7G9W2WsCTrW1Ws_EHW2Wu6ldW1WutCPW2Wv-jlW1WwlAXW2WxshtW1WyfSJW2Wzkf_W1W-XQRW2W_ce7W1",
      "X0POZW2X1WvvW1X2HMhW2X3Ou1W1X49KpW2X5Gs9W1X61IxW2X78qHW1X7xajW2X90oPW1X9pYrW2XAumXW1",
      "XCp3Bm0XDZVzm1"],
    none⟩,
  ⟨"Asia/Karachi", 16092, [19800, 23400, 18000, 21600],
    ["U9Vloa0VCbJAe1VIT1AO0VTgE2e2WyhqMm3WzdoYW2X8GQ0m3X92qUW2X9vDqm3XAx7iW2"],
    none⟩,
  ⟨"Asia/Kathmandu", 20476, [19800, 20700],
    ["UXyds40WU632e1"],
    none⟩,
  ⟨"Asia/Khandyga", 32533, [28800, 32400, 36000, 39600],
    [
      "UXs-Jh0UreyK01WL9rDm2WM68VW1WN28Rm2WN-RjW1WOwRfm2WPskxW1WQp3zm2WRl4oG1WSh3sG2WTd2wG1",
      "WUZ1-G2WVV12G1WWR06G2WXM_AG1WYI-EG2WZEzIG1WaAyMG2Wb6xQG1Wc2wUG2Wd1DCG1WevCCW0WfU6iW1",
      "WfrAOG2Wgn9SG1Whj8WG2Wif7aG1Wjb6eG2WkX5iG1WlT4mG2WmP3qG1WnNMYG2WoSaEG1WpFKgG2WqKYMG1",
      "Wr7IoG2WsCWUG1Ws_GwG2Wu6oGG1WutF2G2Wv-mOG1WwlDAG2WxskWG1WyfUyG2WzkieG1W-XT4G2W_cgmG1",
      "W_ykHm2X0PQK03X1Wxg02X2HOS03X3Ovo02X49Ma03X5Gtw02X61Ki03X78s202X7xcU03X90qA02X9pac03",
      "XAuoI02XBhYk03XCp4402XDZWs03XERW9G2XKIya01"],
    none⟩,
  ⟨"Asia/Kolkata", 21208, [21200, 19270, 19800, 23400],
    ["SckXWe0T3v-im1U7dRow2VAsume3VC1N4O2VCbJAe3VIT1AO2"],
    none⟩,
  ⟨"Asia/Krasnoyarsk", 22286, [21600, 25200, 28800],
    [
      "UX-Gto0Ure-4W1WL9s-G2WM6AG01WN2ACG2WN-TU01WOwTQG2WPsmi01WQp5kG2WRl6Ym1WSh5cm2WTd4gm1",
      "WUZ3km2WVV2om1WWR1sm2WXN0wm1WYI_-m2WZE_2m1WaA-6m2Wb6zAm1Wc2yEm2Wd1Eym1WevDz00WfU8T01",
      "WfrC8m2WgnBCm1WhjAGm2Wif9Km1Wjb8Om2WkX7Sm1WlT6Wm2WmP5am1WnNOIm2WoSb-m1WpFMQm2WqKa6m1",
      "Wr7KYm2WsCYEm1Ws_Igm2Wu6q0m1WutGom2Wv-o8m1WwlEwm2WxsmGm1WyfWim2WzkkOm1W-XUqm2W_ciWm1",
      "X0PSym2X1W-Im1X2HR4m2X3OyQm1X49PCm2X5GwYm1X61NKm2X78ugm1X7xf6m2X90som1X9pdEm2XAuqwm1",
      "XBhbMm2XCp6im1XDZZUm2XKI-KW1"],
    none⟩,
  ⟨"Asia/Kuching", 26480, [27000, 28800, 30000, 32400],
    [
      "UjYWQG0UwPqU81U_UoU02U_ynjG1V1NQo02V1rQ1G1V3Fk002V3jjFG1V581E02V5c0TG1V70KS02V7UJhG1",
      "V8uym02V9Mx_G1VAnF-02VBFFDG1VBaLW03VII6tm1"],
    none⟩,
  ⟨"Asia/Macau", 27250, [28800, 32400, 36000],
    [
      "U5QLkE0VBHtNm1VByihW2VC-xfG1VDq_vW2VEdQNG1VIONfm0VJUFXm1VKGgtm0VLIwjm1VMT4pm0VNFrFm1",
      "VOBqJm0VO-Ffm1VQ3TLm0VQsDnm1VRxRTm0VSkBvm1VTpkhm0VUeThm1VVjhNm0VWWRpm1VXbfVm0VYJodm1",
      "VZTddm0VaBmlm1VbNvPm0Vc3ktm1VdFwce0Vd-4cu1Vf7uke0Vfs2ku1Vg_sse0Vhk0su1Vitq-e0Vjb--u1",
      "Vko6me0VlTz6u1Vmg4ue0VnLxEu1VoY30e0VpGD0u1VqQ18e0Vr8B8u1VsH_Ge0Vt9Nuu1Vu5LCO0Vv1M0u1",
      "VvzJKO0VwvK8u1Vxtb-e0Vypbwu1Vzla6e0V-ha2u1V_dYEe0W0ZYAu1W1VWMe0W2RWIu1W3NUUe0W4JUQu1",
      "W5HmGe0W6DmCu1W79kOe0W7Wpqu1W91iWe0W9ziSu1WAvgee0WBrgau1WCneme0WHcpau1WIRsoe0"],
    none⟩,
  ⟨"Asia/Magadan", 36192, [36000, 39600, 43200],
    [
      "Ug6JQW0UrewZW1WL9pTG2WM66l01WN26hG2WN-Pz01WOwPvG2WPsjB01WQp2DG2WRl31m1WSh25m2WTd19m1",
      "WUZ0Dm2WVU_Hm1WWQ-Lm2WXMzPm1WYIyTm2WZExXm1WaAwbm2Wb6vfm1Wc2ujm2Wd1BRm1WevAS00WfU4y01",
      "Wfr8dm2Wgn7hm1Whj6lm2Wif5pm1Wjb4tm2WkX3xm1WlT2_m2WmP23m1WnNKnm2WoSYTm1WpFIvm2WqKWbm1",
      "Wr7H1m2WsCUjm1Ws_F9m2Wu6mVm1WutDHm2Wv-kdm1WwlBPm2Wxsilm1WyfTBm2Wzkgtm1W-XRJm2W_ce_m1",
      "X0PPRm2X1Wwnm1X2HNZm2X3Ouvm1X49Lhm2X5Gt1m1X61Jpm2X78r9m1X7xbbm2X90pHm1X9pZjm2XAunPm1",
      "XBhXrm2XCp3Bm1XDZVzm2XKIwpW0XN6vm01"],
    none⟩,
  ⟨"Asia/Makassar", 28656, [28800, 32400],
    ["Uw5jMG0VBY1s01VILkvm0"],
    none⟩,
  ⟨"Asia/Manila", -57368, [29032, 28800, 32400],
    ["SKuTmO0Txktf01V1dFI02V20HXm1VBFvi02VIiUNm1VYR3a02VYirlm1WDc_m02WEXfZm1WcLhy02WciQXm1"],
    none⟩,
  ⟨"Asia/Nicosia", 8008, [7200, 10800],
    [
      "UbTnwu0W9xQ_W1WAtPBG0WB-cJW1WCliPG0WDf3bW1WEYk7G0WFX1jW1WGTK_G0WHO_rW1WIK-1G0WJJHdW1",
      "WKCy9G0WL8y5W1WM4wHG0WN0wDW1WNyuPG0WOuuLW1WPqsXG0WQmsTW1WRl8JG0WSh8FW1WTd6RG0WUZ6NW1",
      "WVV4ZG0WWR4VW1WXN2hG0WYJ2dW1WZF0pG0WaB0lW1Wb6-xG0Wc2-tW1Wd1GjG0WdzGfW1WevErG0WfrEnW1",
      "WgnCzG0WhjCvW1WifB5G0WjbB1W1WkX9DG0WlT99W1WmP7LG0WnNQxW1WoJP7G0WpFP3W1WqBNFG0Wr7NBW1",
      "WsCdWG0"],
    some ⟨7200, 10800, ⟨3, 5, 0, 10800⟩, ⟨10, 5, 0, 14400⟩⟩⟩,
  ⟨"Asia/Novokuznetsk", 20928, [21600, 25200, 28800],
    [
      "Ug62300Ure-4W1WL9s-G2WM6AG01WN2ACG2WN-TU01WOwTQG2WPsmi01WQp5kG2WRl6Ym1WSh5cm2WTd4gm1",
      "WUZ3km2WVV2om1WWR1sm2WXN0wm1WYI_-m2WZE_2m1WaA-6m2Wb6zAm1Wc2yEm2Wd1Eym1WevDz00WfU8T01",
      "WfrC8m2WgnBCm1WhjAGm2Wif9Km1Wjb8Om2WkX7Sm1WlT6Wm2WmP5am1WnNOIm2WoSb-m1WpFMQm2WqKa6m1",
      "Wr7KYm2WsCYEm1Ws_Igm2Wu6q0m1WutGom2Wv-o8m1WwlEwm2WxsmGm1WyfWim2WzkkOm1W-XUqm2W_ciWm1",
      "X0PSym2X1W-Im1X2HR4m2X3OyQm1X49PCm2X5GwYm1X61NKm2X78ugm1X7xf6m2X90som1X9pdEm2XAuqwm1",
      "XCp7b00XDZaN01"],
    none⟩,
  ⟨"Asia/Novosibirsk", 19900, [21600, 25200, 28800],
    [
      "UXsnaa0Ure-4W1WL9s-G2WM6AG01WN2ACG2WN-TU01WOwTQG2WPsmi01WQp5kG2WRl6Ym1WSh5cm2WTd4gm1",
      "WUZ3km2WVV2om1WWR1sm2WXN0wm1WYI_-m2WZE_2m1WaA-6m2Wb6zAm1Wc2yEm2Wd1Eym1WevDz00WfU8T01",
      "WfrC8m2WgnBCm1WhjAGm2Wh_au01WifAD00Wjb9H01WkX8L00WlT7P01WmP6T00WnNPB01WoSct00WpFNJ01",
      "WqKa_00Wr7LR01WsCZ700Ws_JZ01Wu6qv00WutHh01Wv-p100WwlFp01Wxsn900WyfXb01WzklH00W-XVj01",
      "W_cjP00X0PTr01X1W_B00X2HRz01X3OzJ00X49Q501X5GxR00X61OD01X78vZ00X7xf_01X90th00X9pe701",
      "XAurp00XBhcF01XCp7b00XDZaN01XKI_Cm0XNayp01"],
    none⟩,
  ⟨"Asia/Omsk", 17610, [18000, 21600, 25200],
    [
      "UXiq2s0Ure-ym1WL9tsW2WM6B8G1WN2B4W2WN-UMG1WOwUIW2WPsnaG1WQp6cW2WRl7R01WSh6V02WTd5Z01",
      "WUZ4d02WVV3h01WWR2l02WXN1p01WYJ0t02WZE_x01WaA-_02Wb6-301Wc2z702Wd1Fr01WevErG0WfU9LG1",
      "WfrD102WgnC501WhjB902WifAD01Wjb9H02WkX8L01WlT7P02WmP6T01WnNPB02WoSct01WpFNJ02WqKa_01",
      "Wr7LR02WsCZ701Ws_JZ02Wu6qv01WutHh02Wv-p101WwlFp02Wxsn901WyfXb02WzklH01W-XVj02W_cjP01",
      "X0PTr02X1W_B01X2HRz02X3OzJ01X49Q502X5GxR01X61OD02X78vZ01X7xf_02X90th01X9pe702XAurp01",
      "XBhcF02XCp7b01XDZaN02XKI_Cm1"],
    none⟩,
  ⟨"Asia/Oral", 12324, [10800, 18000, 21600, 14400],
    [
      "Ug6PFS0Urf0jG1WL9ukm2WN-VEW1WOwVAm2WPsoSW1WQp7Um2WRl8JG1WSh7NG2WTd6RG1WUZ5VG2WVV4ZG1",
      "WWR3dG2WXN2hG1WYJ1lG2WZF0pG1Wb6_pW3Wc2-tW1Wd1HbW3WdzGfW1WevFjW3WfUADW1WgnDrW3WhjCvW1",
      "WifBzW3WjbB1W1WkXA5W3WlT99W1WmP8DW3WnNQxW1WoSedW3WpFP3W1WqKclW3Wr7NBW1WsCatW3Ws_LJW1",
      "Wu6sfW3WutJRW1Wv-qnW3WwlHZW1WxsovW3WyfZLW1Wzkn1W3W-XXTW1W_cl9W3X0PVbW1"],
    none⟩,
  ⟨"Asia/Pontianak", 26240, [27000, 32400, 28800, 25200],
    ["Uw5jy00VBUQG81VILkvm0VNFCO82VQ_oO00VqjRw82WXsdI03"],
    none⟩,
  ⟨"Asia/Pyongyang", 30180, [30600, 32400],
    ["UBr_6S0UIvXRu1XLpW9m0XQx7Lm1"],
    none⟩,
  ⟨"Asia/Qatar", 12368, [14400, 10800],
    ["UXyfqm0W4YfB01"],
    none⟩,
  ⟨"Asia/Qostanay", 15268, [14400, 18000, 21600],
    [
      "Ug6OXS0Ure_r01WL9ukm2WN-VEW1WOwVAm2WPsoSW1WQp7Um2WRl8JG1WSh7NG2WTd6RG1WUZ5VG2WVV4ZG1",
      "WWR3dG2WXN2hG1WYJ1lG2WZF0pG1WaA_tG2Wb6-xG1Wc2z_G2Wd1GjG1WevFjW0WfUADW1WfrDvG2WgnCzG1",
      "WhjC1G2WifB5G1WjbA9G2WkX9DG1WlT8HG2WmP7LG1WnNQ3G2WoSdlG1WpFOBG2WqKbtG1Wr7MJG2WsCZ_G1",
      "Ws_KRG2Wu6rnG1WutIZG2Wv-pvG1WwlGhG2Wxso1G1WyfYTG2Wzkm9G1W-XWbG2W_ckHG1X0PUjG2XbuCOW1"],
    none⟩,
  ⟨"Asia/Qyzylorda", 15712, [14400, 18000, 21600],
    [
      "Ug6OQW0Ure_r01WL9ukm2WN-VEW1WOwVAm2WPsoSW1WQp7Um2WRl8JG1WSh7NG2WTd6RG1WUZ5VG2WVV4ZG1",
      "WWR3dG2WXN2hG1WYJ1lG2WZF0pG1WaA_tG2Wb6-xG1Wc2z_G2Wd1GjG1WfU9LG2WgnCzG1WhjC1G2WifB5G1",
      "WjbA9G2WkX9DG1WlT8HG2WmP7LG1WnNQ3G2WoSdlG1WpFOBG2WqKbtG1Wr7MJG2WsCZ_G1Ws_KRG2Wu6rnG1",
      "WutIZG2Wv-pvG1WwlGhG2Wxso1G1WyfYTG2Wzkm9G1W-XWbG2W_ckHG1X0PUjG2XS6zYW1"],
    none⟩,
  ⟨"Asia/Riyadh", 11212, [10800],
    ["VL6pQq0"],
    none⟩,
  ⟨"Asia/Sakhalin", 34248, [32400, 39600, 43200, 36000],
    [
      "U6yCsu0VICBBm1WL9pTG2WM66l01WN26hG2WN-Pz01WOwPvG2WPsjB01WQp2DG2WRl31m1WSh25m2WTd19m1",
      "WUZ0Dm2WVU_Hm1WWQ-Lm2WXMzPm1WYIyTm2WZExXm1WaAwbm2Wb6vfm1Wc2ujm2Wd1BRm1WevAS03WfU4y01",
      "Wfr8dm2Wgn7hm1Whj6lm2Wif5pm1Wjb4tm2WkX3xm1WlT2_m2WmP23m1WnNKnm2WoSYTm1WqKXU03Wr7Hw01",
      "WsCVc03Ws_G201Wu6nO03WutEA01Wv-lW03WwlCI01Wxsje03WyfU401Wzkhm03W-XSC01W_cfu03X0PQK01",
      "X1Wxg03X2HOS01X3Ovo03X49Ma01X5Gtw03X61Ki01X78s203X7xcU01X90qA03X9pac01XAuoI03XBhYk01",
      "XCp4403XDZWs01XKIxhm3XMzh801"],
    none⟩,
  ⟨"Asia/Samarkand", 16073, [14400, 18000, 21600],
    [
      "Ug6OKt0Ure_r01WL9ukm2WN-VEW1WOwVAm2WPsoSW1WQp7Um2WRl8JG1WSh7NG2WTd6RG1WUZ5VG2WVV4ZG1",
      "WWR3dG2WXN2hG1WYJ1lG2WZF0pG1WaA_tG2Wb6-xG1Wc2z_G2Wd1GjG1WdzFnG2WevErG1"],
    none⟩,
  ⟨"Asia/Seoul", 30472, [30600, 32400, 36000, 34200],
    [
      "UBr_1u0UIvXRu1VNPOzm2VNxfrW1VO-Ffm2VPpItW1VQruhm2VRhG_W1VSvkBm2VTZF7W1VYJodm0VaQxVu3",
      "Vb4nXe0VcOWDu3Vd4Kpe0VeBt1u3Vev_He0Vg3r9u3VgnzPe0VhxpHu3VifxXe0VjpnPu3VkXvfe0VmDN5u1",
      "WWes2G2WXRcUG1WYWqAG2WZJacG1"],
    none⟩,
  ⟨"Asia/Shanghai", 29143, [28800, 32400],
    [
      "T-DaCf0UWbwA01UXUGJm0V8MLw01V92Vbm0V9qxq01VB1Ohm0VBV4001VIEpxm0VJYtk01VKGgtm0VLHI801",
      "VMJB_m0VNFBy01VO1cPm0VP7VA01VPGNpm0WUkb8W1WVQPkG0WWVeIW1WXINsG0WYPw4W1WZAL-G0WaHuCW1",
      "Wb4dmG0Wc9sKW1WcybuG0We1qSW1Weqa0G0"],
    none⟩,
  ⟨"Asia/Singapore", 24925, [25200, 26400, 27000, 32400, 28800],
    ["U6WuMZ0UwPqwG1VAi-LW2VBaLy83VII6tm2WMaUu04"],
    none⟩,
  ⟨"Asia/Srednekolymsk", 36892, [36000, 39600, 43200],
    [
      "Ug6JFa0UrewZW1WL9pTG2WM66l01WN26hG2WN-Pz01WOwPvG2WPsjB01WQp2DG2WRl31m1WSh25m2WTd19m1",
      "WUZ0Dm2WVU_Hm1WWQ-Lm2WXMzPm1WYIyTm2WZExXm1WaAwbm2Wb6vfm1Wc2ujm2Wd1BRm1WevAS00WfU4y01",
      "Wfr8dm2Wgn7hm1Whj6lm2Wif5pm1Wjb4tm2WkX3xm1WlT2_m2WmP23m1WnNKnm2WoSYTm1WpFIvm2WqKWbm1",
      "Wr7H1m2WsCUjm1Ws_F9m2Wu6mVm1WutDHm2Wv-kdm1WwlBPm2Wxsilm1WyfTBm2Wzkgtm1W-XRJm2W_ce_m1",
      "X0PPRm2X1Wwnm1X2HNZm2X3Ouvm1X49Lhm2X5Gt1m1X61Jpm2X78r9m1X7xbbm2X90pHm1X9pZjm2XAunPm1",
      "XBhXrm2XCp3Bm1XDZVzm2XKIwpW1"],
    none⟩,
  ⟨"Asia/Taipei", 29160, [28800, 32400],
    [
      "Tqpl0O0V3LKc01VIL5c00VJYtk01VKGgtm0VLHI801VMJB_m0VNFBy01VO1cPm0VP7VA01VPvvdm0VQ_oO01",
      "VRoCrm0VSu5c01VTgW3m0VUSdC01VVjMHm0VWV8K01VXbfVm0VYNRY01VZTyjm0VaFkm01VbC21m0Vc8N401",
      "Vd4gLm0Ve0gI01VeyzZm0VfuzW01VgrGnm0VhnGk01VijZ_m0Vjz_m01VkcCJm0VlsI-01VmUVXm0W7_5O01",
      "W8xOfm0W9tOc01WAphtm0WHsw601WILDrm0"],
    none⟩,
  ⟨"Asia/Tashkent", 16631, [18000, 21600, 25200],
    [
      "Ug6OC90Ure-ym1WL9tsW2WM6B8G1WN2B4W2WN-UMG1WOwUIW2WPsnaG1WQp6cW2WRl7R01WSh6V02WTd5Z01",
      "WUZ4d02WVV3h01WWR2l02WXN1p01WYJ0t02WZE_x01WaA-_02Wb6-301Wc2z702Wd1Fr01WevErG0"],
    none⟩,
  ⟨"Asia/Tbilisi", 10751, [10800, 14400, 18000],
    [
      "Ug6Pe10VdsWnG1WL9vd02WM6Cum1WN2Cr02WN-W6m1WOwW302WPspKm1WQp8N02WRl9BW1WSh8FW2WTd7JW1",
      "WUZ6NW2WVV5RW1WWR4VW2WXN3ZW1WYJ2dW2WZF1hW1WaB0lW2Wb6_pW1Wc2-tW2Wd1HbW1WevGbm0WfrDvG1",
      "WgnC500WhjC1G1WifAD00WjbA9G1WlT7P02WmP5am1WnNPB02WqKa6m1Wr7LR02WsCYEm1Ws_JZ02Wu6q0m1",
      "WutHh02Wv-o8m1WwlFp02WxsmGm1WyfXb02WzkkOm1W-XVj02W_ciWm1X0PTr02X0tSUm1X1X1pm0X2HUbm1"],
    none⟩,
  ⟨"Asia/Tehran", 12344, [12600, 16200, 14400, 18000],
    [
      "U_0Cn80WDb4Gu1WEhHEu2WFUND03WGACh02WGgVt00WHhRn81WIHKgu0WJD-p81WKBHMu0We87R81Wesvsu0",
      "Wfovp81WglYAu0WhhD181WidrOu0WjZWF81WkW8cu0WlRpT81WmORqu0WnK6h81WoGl2u0WpCk_81Wq9NMu0",
      "Wr52D81Ws1gau0WszLR81Wtvzou0Wuref81WvoH0u0WwkGz81WxgvKu0WycaB81WzZCYu0W-UtP81W_RVmu0",
      "X0NAd81X1Jo-u0X2Fox81X3CRIu0X7uib81X8rKyu0X9nKv81XAjzGu0XBfe781XCcGUu0XDXxL81XEUZiu0",
      "XFQEZ81XGMswu0XHIst81XIFVEu0XJBA581XK7oSu0XL3TJ81XM05gu0XMxmX81XNuOuu0XOqOr81XPn1Cu0",
      "XQii381XRfKQu0XSa_H81XTXdeu0XUTIV81XVPwsu0XWLwp81XXIZAu0XYEE181XZAsOu0"],
    none⟩,
  ⟨"Asia/Thimphu", 21516, [19800, 21600],
    ["VLvXLq0WXOKse1"],
    none⟩,
  ⟨"Asia/Tokyo", 33539, [32400, 36000],
    ["TbmgHm0VNFW9m1VNxLdm0VO-Ffm1VPpJlm0VR1m3m1VRhHtm0VSvkBm1VTZF_m0"],
    none⟩,
  ⟨"Asia/Tomsk", 20391, [21600, 25200, 28800],
    [
      "UXvKxP0Ure-4W1WL9s-G2WM6AG01WN2ACG2WN-TU01WOwTQG2WPsmi01WQp5kG2WRl6Ym1WSh5cm2WTd4gm1",
      "WUZ3km2WVV2om1WWR1sm2WXN0wm1WYI_-m2WZE_2m1WaA-6m2Wb6zAm1Wc2yEm2Wd1Eym1WevDz00WfU8T01",
      "WfrC8m2WgnBCm1WhjAGm2Wif9Km1Wjb8Om2WkX7Sm1WlT6Wm2WmP5am1WnNOIm2WoSb-m1WpFMQm2WqKa6m1",
      "Wr7KYm2WsCYEm1Ws_Igm2Wu6q0m1WutGom2Wv-o8m1WwlEwm2WxsmGm1WyfWim2Wypkcm1WzklH00W-XVj01",
      "W_cjP00X0PTr01X1W_B00X2HRz01X3OzJ00X49Q501X5GxR00X61OD01X78vZ00X7xf_01X90th00X9pe701",
      "XAurp00XBhcF01XCp7b00XDZaN01XKI_Cm0XNIVZ01"],
    none⟩,
  ⟨"Asia/Ulaanbaatar", 25652, [25200, 28800, 32400],
    [
      "U6q-vC0WF2zoG1WOwSY02WPslpm1WQp4s02WRl31m1WSh2-02WTd19m1WUZ1602WVU_Hm1WWQ_E02WXMzPm1",
      "WYIzM02WZExXm1WaAxU02Wb6vfm1Wc2vc02Wd1BRm1WdzBO02Wev9Zm1Wfr9W02Wgn7hm1Whj7e02Wif5pm1",
      "Wjb5m02WkX3xm1WlT3u02WmP23m1WnNLg02WoJJrm1WpFJo02WqBHzm1Wr7Hw02Ws3G5m1WwwREW2WxjAoG1",
      "WyfAkW2Wzb8wG1W-X8sW2W_T72G1X0P6-W2X1L5AG1X2H56W2X3D3IG1X493EW2X57L4G1XL5PgW2XM1M5m1",
      "XMzNoW2XNvKDm1"],
    none⟩,
  ⟨"Asia/Urumqi", 21020, [21600],
    ["Um_hfa0"],
    none⟩,
  ⟨"Asia/Ust-Nera", 34374, [28800, 32400, 43200, 39600, 36000],
    [
      "UXszsw0UreyK01WL9rDm2WM66l03WN26hG2WN-Pz03WOwPvG2WPsjB03WQp2DG2WRl31m3WSh25m2WTd19m3",
      "WUZ0Dm2WVU_Hm3WWQ-Lm2WXMzPm3WYIyTm2WZExXm3WaAwbm2Wb6vfm3Wc2ujm2Wd1BRm3WevAS04WfU4y03",
      "Wfr8dm2Wgn7hm3Whj6lm2Wif5pm3Wjb4tm2WkX3xm3WlT2_m2WmP23m3WnNKnm2WoSYTm3WpFIvm2WqKWbm3",
      "Wr7H1m2WsCUjm3Ws_F9m2Wu6mVm3WutDHm2Wv-kdm3WwlBPm2Wxsilm3WyfTBm2Wzkgtm3W-XRJm2W_ce_m3",
      "X0PPRm2X1Wwnm3X2HNZm2X3Ouvm3X49Lhm2X5Gt1m3X61Jpm2X78r9m3X7xbbm2X90pHm3X9pZjm2XAunPm3",
      "XBhXrm2XCp3Bm3XDZVzm2XERVH03XKIxhm4"],
    none⟩,
  ⟨"Asia/Vladivostok", 31651, [32400, 36000, 39600],
    [
      "UdMKTT0UrexRm1WL9qLW2WM67dG1WN27ZW2WN-QrG1WOwQnW2WPsk3G1WQp35W2WRl3w01WSh2-02WTd2201",
      "WUZ1602WVV0A01WWQ_E02WXM-I01WYIzM02WZEyQ01WaAxU02Wb6wY01Wc2vc02Wd1CK01WevBKG0WfU5qG1",
      "Wfr9W02Wgn8a01Whj7e02Wif6i01Wjb5m02WkX4q01WlT3u02WmP2y01WnNLg02WoSZM01WpFJo02WqKXU01",
      "Wr7Hw02WsCVc01Ws_G202Wu6nO01WutEA02Wv-lW01WwlCI02Wxsje01WyfU402Wzkhm01W-XSC02W_cfu01",
      "X0PQK02X1Wxg01X2HOS02X3Ovo01X49Ma02X5Gtw01X61Ki02X78s201X7xcU02X90qA01X9pac02XAuoI01",
      "XBhYk02XCp4401XDZWs02XKIxhm1"],
    none⟩,
  ⟨"Asia/Yakutsk", 31138, [28800, 32400, 36000],
    [
      "UXs-fU0UreyK01WL9rDm2WM68VW1WN28Rm2WN-RjW1WOwRfm2WPskxW1WQp3zm2WRl4oG1WSh3sG2WTd2wG1",
      "WUZ1-G2WVV12G1WWR06G2WXM_AG1WYI-EG2WZEzIG1WaAyMG2Wb6xQG1Wc2wUG2Wd1DCG1WevCCW0WfU6iW1",
      "WfrAOG2Wgn9SG1Whj8WG2Wif7aG1Wjb6eG2WkX5iG1WlT4mG2WmP3qG1WnNMYG2WoSaEG1WpFKgG2WqKYMG1",
      "Wr7IoG2WsCWUG1Ws_GwG2Wu6oGG1WutF2G2Wv-mOG1WwlDAG2WxskWG1WyfUyG2WzkieG1W-XT4G2W_cgmG1",
      "X0PRCG2X1WyYG1X2HPKG2X3OwgG1X49NSG2X5GuoG1X61LaG2X78swG1X7xdMG2X90r2G1X9pbUG2XAupAG1",
      "XBhZcG2XCp4yG1XDZXkG2XKIya01"],
    none⟩,
  ⟨"Asia/Yangon", 23087, [23400, 32400],
    ["UXydDH0VBylmO1VHccVm0"],
    none⟩,
  ⟨"Asia/Yekaterinburg", 14553, [13505, 14400, 18000, 21600],
    [
      "URNmad0UX4h7_1Ure_r02WL9ukm3WM6C0W2WN2Bym3WN-VEW2WOwVAm3WPsoSW2WQp7Um3WRl8JG2WSh7NG3",
      "WTd6RG2WUZ5VG3WVV4ZG2WWR3dG3WXN2hG2WYJ1lG3WZF0pG2WaA_tG3Wb6-xG2Wc2z_G3Wd1GjG2WevFjW1",
      "WfUADW2WfrDvG3WgnCzG2WhjC1G3WifB5G2WjbA9G3WkX9DG2WlT8HG3WmP7LG2WnNQ3G3WoSdlG2WpFOBG3",
      "WqKbtG2Wr7MJG3WsCZ_G2Ws_KRG3Wu6rnG2WutIZG3Wv-pvG2WwlGhG3Wxso1G2WyfYTG3Wzkm9G2W-XWbG3",
      "W_ckHG2X0PUjG3X1X03G2X2HSrG3X3O-BG2X49QzG3X5GyJG2X61P5G3X78wRG2X7xgtG3X90uZG2X9pe_G3",
      "XAushG2XBhd7G3XCp8TG2XDZbFG3XKJ0502"],
    none⟩,
  ⟨"Asia/Yerevan", 10680, [10800, 14400, 18000],
    [
      "Ug6Pf80VdsWnG1WL9vd02WM6Cum1WN2Cr02WN-W6m1WOwW302WPspKm1WQp8N02WRl9BW1WSh8FW2WTd7JW1",
      "WUZ6NW2WVV5RW1WWR4VW2WXN3ZW1WYJ2dW2WZF1hW1WaB0lW2Wb6_pW1Wc2-tW2Wd1HbW1WevGbm0WfrFfm1",
      "WgnEjm0WhjDnm1WifCrm0WjbBvm1WkXAzm0WlTA1m1WpFP3W2WqKclW1Wr7NBW2WsCatW1Ws_LJW2Wu6sfW1",
      "WutJRW2Wv-qnW1WwlHZW2WxsovW1WyfZLW2Wzkn1W1W-XXTW2W_cl9W1X0PVbW2X1X0xW1X2HTjW2X3O_3W1",
      "X49RrW2X5GzBW1X61PzW2X78xJW1X7xhlW2X90vRW1X9pftW2XAutZW1XBhd_W2XCp9LW1XDZc7W2XEh7TW1"],
    none⟩]

end Timetable.Zone
